import Mathlib.Tactic
import IPProxyPool.Model.NodeValidation

/-!
# The node file

The disk format of `node_registry.rs`. The JSON text layer is a parameter; the mapping between
JSON values and `NodesFile`, which the derived `Serialize` and `Deserialize` produce from the
field attributes, is written out: optional credentials are skipped when absent, a missing
protocol means `http`, unknown fields are ignored and a field given twice is refused.
-/

namespace IPProxyPool
open RustText

inductive Json where
  | null
  | bool (b : Bool)
  | num (n : Nat)
  /-- A number that is no unsigned integer. -/
  | float (digits : String)
  | str (s : String)
  | arr (items : List Json)
  | obj (fields : List (String × Json))

namespace Json

/-- The fields of a struct: an object, or an array read by position. -/
def asRecord (names : List String) : Json → Option (List (String × Json))
  | .obj fields => some fields
  | .arr items => if items.length ≤ names.length then some (names.zip items) else none
  | _ => none

/-- The value of a field, `some none` when it is missing, `none` when it is given twice. -/
def member (fields : List (String × Json)) (name : String) : Option (Option Json) :=
  match fields.filter (fun f => f.1 = name) with
  | [] => some none
  | [f] => some (some f.2)
  | _ => none

def required {α : Type} (read : Json → Option α) (fields : List (String × Json)) (name : String) :
    Option α :=
  (member fields name).bind (fun v => v.bind read)

def defaulted {α : Type} (read : Json → Option α) (dflt : α) (fields : List (String × Json))
    (name : String) : Option α :=
  match member fields name with
  | none => none
  | some none => some dflt
  | some (some j) => read j

def readString : Json → Option String
  | .str s => some s
  | _ => none

/-- An unsigned integer of the given width. -/
def readUnsigned (width : Nat) : Json → Option Nat
  | .num n => if n < 2 ^ width then some n else none
  | _ => none

def readPort (j : Json) : Option UInt16 := (readUnsigned 16 j).map UInt16.ofNat

def readOption {α : Type} (read : Json → Option α) : Json → Option (Option α)
  | .null => some none
  | j => (read j).map some

def readList {α : Type} (read : Json → Option α) : Json → Option (List α)
  | .arr items => items.mapM read
  | _ => none

end Json

/-- `PersistedNode`: neither the address nor the exit address is stored. -/
structure PersistedNode where
  ip : String
  port : UInt16
  username : Option String
  password : Option String
  country : String
  tier : String
  provider : String
  weight : Nat
  proto : String
  deriving DecidableEq

structure NodesFile where
  version : Nat
  nodes : List PersistedNode
  deriving DecidableEq

def nodesFileVersion : Nat := 1
def defaultProtoStr : String := "http"

def protoStr : EgressProto → String
  | .http => "http"
  | .socks5 => "socks5"
  | .socks4 => "socks4"

namespace PersistedNode

def fieldNames : List String :=
  ["ip", "port", "username", "password", "country", "tier", "provider", "weight", "proto"]

/-- A credential is written only when there is one. -/
def credentialField (name : String) : Option String → List (String × Json)
  | some s => [(name, .str s)]
  | none => []

def toJson (p : PersistedNode) : Json :=
  .obj ([("ip", .str p.ip), ("port", .num p.port.toNat)] ++
    (credentialField "username" p.username ++ (credentialField "password" p.password ++
    [("country", .str p.country), ("tier", .str p.tier), ("provider", .str p.provider),
      ("weight", .num p.weight), ("proto", .str p.proto)])))

def fromJson (j : Json) : Option PersistedNode := do
  let fields ← j.asRecord fieldNames
  let ip ← Json.required Json.readString fields "ip"
  let port ← Json.required Json.readPort fields "port"
  let username ← Json.defaulted (Json.readOption Json.readString) none fields "username"
  let password ← Json.defaulted (Json.readOption Json.readString) none fields "password"
  let country ← Json.required Json.readString fields "country"
  let tier ← Json.required Json.readString fields "tier"
  let provider ← Json.required Json.readString fields "provider"
  let weight ← Json.required (Json.readUnsigned 32) fields "weight"
  let proto ← Json.defaulted Json.readString defaultProtoStr fields "proto"
  some ⟨ip, port, username, password, country, tier, provider, weight, proto⟩

/-- `PersistedNode::from`. -/
def ofNode (n : ProxyNode) : PersistedNode where
  ip := n.ip
  port := n.port
  username := n.username
  password := n.password
  country := n.country
  tier := n.tier
  provider := n.provider
  weight := n.weight
  proto := protoStr n.proto

/-- `PersistedNode::to_node`. -/
def toNode (p : PersistedNode) : Except NodeError ProxyNode :=
  match EgressProto.fromToken p.proto with
  | none => .error (.unknownProto p.proto)
  | some proto =>
    normalizeAndValidate ((ProxyNode.new p.ip p.port p.username p.password p.country p.tier
      p.provider p.weight).withProto proto)

end PersistedNode

namespace NodesFile

def fieldNames : List String := ["version", "nodes"]

def toJson (file : NodesFile) : Json :=
  .obj [("version", .num file.version), ("nodes", .arr (file.nodes.map PersistedNode.toJson))]

def fromJson (j : Json) : Option NodesFile := do
  let fields ← j.asRecord fieldNames
  let version ← Json.required (Json.readUnsigned 32) fields "version"
  let nodes ← Json.required (Json.readList PersistedNode.fromJson) fields "nodes"
  some ⟨version, nodes⟩

/-- The file the registry writes for a list of nodes. -/
def ofNodes (nodes : List ProxyNode) : NodesFile :=
  ⟨nodesFileVersion, nodes.map PersistedNode.ofNode⟩

end NodesFile

/-- The text layer of `serde_json`, with its error messages. `shapeError` is what it reports of a
value that is no `NodesFile`. -/
structure JsonText where
  toVecPretty : Json → Except String String
  fromStr : String → Except String Json
  shapeError : Json → String

/-- A node file that was written is read back. -/
def JsonText.RoundTrips (json : JsonText) : Prop :=
  ∀ (file : NodesFile) (raw : String), json.toVecPretty file.toJson = .ok raw →
    json.fromStr raw = .ok file.toJson

/-! ### Reading back what was written -/

lemma readPort_num (port : UInt16) : Json.readPort (.num port.toNat) = some port := by
  have hlt : port.toNat < 2 ^ 16 := port.toNat_lt
  unfold Json.readPort Json.readUnsigned
  dsimp only
  rw [if_pos hlt, Option.map_some, UInt16.ofNat_toNat]

lemma PersistedNode.fromJson_toJson (p : PersistedNode) :
    fromJson p.toJson = if p.weight < 2 ^ 32 then some p else none := by
  obtain ⟨ip, port, username, password, country, tier, provider, weight, proto⟩ := p
  have hread : fromJson (toJson ⟨ip, port, username, password, country, tier, provider, weight,
      proto⟩) = (Json.readPort (.num port.toNat)).bind (fun port =>
        (Json.readUnsigned 32 (.num weight)).bind (fun weight =>
          some ⟨ip, port, username, password, country, tier, provider, weight, proto⟩)) := by
    cases username <;> cases password <;> rfl
  rw [hread, readPort_num, Option.bind_some]
  unfold Json.readUnsigned
  dsimp only
  split <;> rfl

lemma PersistedNode.mapM_fromJson_toJson (ps : List PersistedNode) :
    (ps.map toJson).mapM fromJson = if ∀ p ∈ ps, p.weight < 2 ^ 32 then some ps else none := by
  induction ps with
  | nil => rfl
  | cons p ps ih =>
    rw [List.map_cons, List.mapM_cons, fromJson_toJson, ih]
    generalize 2 ^ 32 = bound
    by_cases hp : p.weight < bound
    · by_cases hps : ∀ q ∈ ps, q.weight < bound
      · rw [if_pos hps]
        simp +contextual [hp, hps]
      · rw [if_neg hps]
        simp [hps]
    · simp [hp]

/-- Of what was written, exactly the numbers that do not fit a `u32` are refused. -/
theorem NodesFile.fromJson_toJson (file : NodesFile) :
    fromJson file.toJson =
      if file.version < 2 ^ 32 ∧ ∀ p ∈ file.nodes, p.weight < 2 ^ 32 then some file else none := by
  obtain ⟨version, nodes⟩ := file
  have hread : fromJson (toJson ⟨version, nodes⟩) =
      (Json.readUnsigned 32 (.num version)).bind (fun version =>
        ((nodes.map PersistedNode.toJson).mapM PersistedNode.fromJson).bind (fun nodes =>
          some ⟨version, nodes⟩)) := rfl
  rw [hread, PersistedNode.mapM_fromJson_toJson]
  unfold Json.readUnsigned
  dsimp only
  generalize 2 ^ 32 = bound
  by_cases hv : version < bound
  · by_cases hw : ∀ p ∈ nodes, p.weight < bound
    · rw [if_pos hw, if_pos hv, if_pos ⟨hv, hw⟩]
      rfl
    · have hboth : ¬(version < bound ∧ ∀ p ∈ nodes, p.weight < bound) := fun h => hw h.2
      rw [if_neg hw, if_pos hv, if_neg hboth]
      rfl
  · have hboth : ¬(version < bound ∧ ∀ p ∈ nodes, p.weight < bound) := fun h => hv h.1
    rw [if_neg hv, if_neg hboth]
    rfl

lemma fromToken_protoStr (proto : EgressProto) : EgressProto.fromToken (protoStr proto) = some proto := by
  cases proto <;> decide

/-- A normal node comes back from its persisted form without its exit address. -/
theorem toNode_ofNode {n : ProxyNode} (h : Normal n) :
    (PersistedNode.ofNode n).toNode = .ok (n.withExitIp none) := by
  have hnew : (ProxyNode.new n.ip n.port n.username n.password n.country n.tier n.provider
      n.weight).withProto n.proto = n.withExitIp none := by
    unfold ProxyNode.new ProxyNode.withProto ProxyNode.withExitIp
    rw [h.canonicalTier_eq, ← h.addr_eq]
  unfold PersistedNode.toNode PersistedNode.ofNode
  dsimp only
  rw [fromToken_protoStr]
  dsimp only
  rw [hnew]
  exact h.withExitIp none

end IPProxyPool
