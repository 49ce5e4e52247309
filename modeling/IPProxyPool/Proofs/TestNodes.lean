import IPProxyPool.Lib.Url
import IPProxyPool.Model.TestNodes

/-!
# The loopback check of the test nodes

`is_loopback_addr` looks at the first four characters of the address only, so that it admits names
that resolve elsewhere. Nothing else slips through, and no item makes the start-up panic.
-/

namespace IPProxyPool
open RustText RustNet Url

/-- An address literal of 127.0.0.0/8, `localhost` or the IPv6 loopback address. -/
def DenotesLoopback (ip : String) : Prop :=
  (∃ addr, parseIpv4Addr ip = some addr ∧ addr.a.val = 127) ∨ ip = "localhost" ∨ ip = "::1" ∨
    ip = "[::1]"

/-- The item has the form `ip:port:tier:country:provider:weight`. -/
def HasForm (spec ip : String) : Prop :=
  ∃ port tier country provider weight,
    split ':' spec = [ip, port, tier, country, provider, weight] ∧
      (parseUnsigned (2 ^ 16) port).isSome ∧ (parseUnsigned (2 ^ 8) weight).isSome

def LoopbackItem (spec : String) : Prop := ∃ ip, HasForm spec ip ∧ DenotesLoopback ip

/-- The address begins as one of 127.0.0.0/8 but is no IPv4 literal. -/
def LooseItem (spec : String) : Prop :=
  ∃ ip, HasForm spec ip ∧ startsWith ip "127." = true ∧ parseIpv4Addr ip = none

/-! ### One item -/

lemma notMem_of_mem_splitOn {c : Char} {l part : List Char} (h : part ∈ l.splitOn c) :
    c ∉ part := by
  induction l generalizing part with
  | nil =>
    rw [List.splitOn_nil, List.mem_singleton] at h
    rw [h]
    exact List.not_mem_nil
  | cons x xs ih =>
    rw [List.splitOn_cons_eq_if_modifyHead] at h
    split at h
    · rcases List.mem_cons.mp h with rfl | h
      · exact List.not_mem_nil
      · exact ih h
    · rename_i hx
      cases hxs : xs.splitOn c with
      | nil => exact absurd hxs (List.splitOn_ne_nil c xs)
      | cons first rest =>
        rw [hxs] at h ih
        rcases List.mem_cons.mp h with rfl | h
        · intro hmem
          rcases List.mem_cons.mp hmem with rfl | hmem
          · simp at hx
          · exact ih List.mem_cons_self hmem
        · exact ih (List.mem_cons_of_mem first h)

/-- A parse for a narrow type succeeds for a wider one. -/
lemma parseUnsigned_mono {bound bound' n : Nat} {s : String} (hle : bound ≤ bound')
    (h : parseUnsigned bound s = some n) : parseUnsigned bound' s = some n := by
  unfold parseUnsigned at h ⊢
  simp only [Option.ite_none_left_eq_some, Option.ite_none_right_eq_some] at h ⊢
  exact ⟨h.1, h.2.1.trans_le hle, h.2.2⟩

/-- Of a field without a colon, only its beginning and the name `localhost` count. -/
lemma isLoopbackAddr_iff {ip : String} (h : ':' ∉ ip.toList) :
    isLoopbackAddr (ip ++ ":0") = true ↔ startsWith ip "127." = true ∨ ip = "localhost" := by
  have hzero : ":0".toList = [':', '0'] := by decide +kernel
  have hsplit : rsplitOnce ':' (ip ++ ":0").toList = some (ip.toList, ['0']) := by
    rw [String.toList_append, hzero]
    exact rsplitOnce_append (by decide) ip.toList
  have hne : ip ≠ "::1" ∧ ip ≠ "[::1]" := by
    constructor
    · rintro rfl
      exact h (by decide +kernel)
    · rintro rfl
      exact h (by decide +kernel)
  have hbracket : startsWith (ip ++ ":0") "[::1]" = false := by
    -- the first colon of the address comes after all of the field
    have hprefix : "[::1]".toList = ['[', ':', ':', '1', ']'] := by decide +kernel
    rw [Bool.eq_false_iff, Ne, startsWith_iff, String.toList_append, hzero, hprefix]
    rintro ⟨rest, hrest⟩
    cases hip : ip.toList with
    | nil =>
      rw [hip] at hrest
      cases hrest
    | cons c cs =>
      rw [hip] at hrest h
      cases cs with
      | nil => cases hrest
      | cons d ds =>
        simp only [List.cons_append, List.cons.injEq] at hrest
        exact h (hrest.2.1 ▸ List.mem_cons_of_mem c List.mem_cons_self)
  unfold isLoopbackAddr
  rw [hsplit, hbracket]
  simp [hne.1, hne.2]

/-- The first field of an item holds no colon. -/
lemma colon_notMem_of_hasForm {spec ip : String} (h : HasForm spec ip) : ':' ∉ ip.toList := by
  obtain ⟨port, tier, country, provider, weight, hsplit, -⟩ := h
  have hmem : ip ∈ split ':' spec := hsplit ▸ List.mem_cons_self
  obtain ⟨part, hpart, rfl⟩ := List.mem_map.mp hmem
  rw [String.toList_ofList]
  exact notMem_of_mem_splitOn hpart

/-- An item of the form, with an address that passes, yields a node with this address. -/
lemma testNode_of_passes {spec ip : String} (h : HasForm spec ip)
    (hip : startsWith ip "127." = true ∨ ip = "localhost") :
    ∃ node, testNode spec = some (some node) ∧ node.ip = ip := by
  have hpasses := (isLoopbackAddr_iff (colon_notMem_of_hasForm h)).mpr hip
  obtain ⟨port, tier, country, provider, weight, hsplit, hport, hweight⟩ := h
  obtain ⟨p, hp⟩ := Option.isSome_iff_exists.mp hport
  obtain ⟨w, hw⟩ := Option.isSome_iff_exists.mp hweight
  have hwide : parseUnsigned (2 ^ 32) weight = some w := parseUnsigned_mono (by decide) hw
  refine ⟨ProxyNode.new ip (UInt16.ofNat p) none none country tier provider w, ?_, rfl⟩
  simp only [testNode, hsplit, hpasses, hp, hw, hwide, Option.isSome_some, Bool.and_self, if_true]
  rfl

/-- Every other item is skipped. -/
lemma testNode_of_fails {spec : String}
    (h : ∀ ip, HasForm spec ip → ¬(startsWith ip "127." = true ∨ ip = "localhost")) :
    testNode spec = some none := by
  unfold testNode
  split
  · rename_i ip port tier country provider weight hsplit
    refine if_neg (fun hall => ?_)
    simp only [Bool.and_eq_true] at hall
    obtain ⟨⟨hpasses, hport⟩, hweight⟩ := hall
    have hform : HasForm spec ip :=
      ⟨port, tier, country, provider, weight, hsplit, hport, hweight⟩
    exact h ip hform ((isLoopbackAddr_iff (colon_notMem_of_hasForm hform)).mp hpasses)
  · rfl

/-- A literal that begins with `127.` lies in 127.0.0.0/8. -/
lemma a_of_startsWith {ip : String} {addr : Ipv4Addr} (hparse : parseIpv4Addr ip = some addr)
    (h : startsWith ip "127." = true) : addr.a.val = 127 := by
  have hprefix : "127.".toList = ['1', '2', '7', '.'] := by decide +kernel
  obtain ⟨rest, hrest⟩ := (startsWith_iff ip "127.").mp h
  have hoctet : readOctet ip.toList = some (127, '.' :: rest) := by
    rw [← hrest, hprefix]
    rfl
  unfold parseIpv4Addr at hparse
  split at hparse
  · rename_i addr' hread
    cases hparse
    unfold readIpv4Addr at hread
    simp only [readSeparator, if_true, hoctet, Option.bind_eq_bind, Option.bind_some,
      Option.bind_eq_some_iff] at hread
    obtain ⟨b, -, c, -, d, -, heq⟩ := hread
    rw [Option.some.injEq, Prod.mk.injEq] at heq
    rw [← heq.1]
    rfl
  · cases hparse

lemma hasForm_unique {spec ip ip' : String} (h : HasForm spec ip) (h' : HasForm spec ip') :
    ip = ip' := by
  obtain ⟨_, _, _, _, _, hsplit, -⟩ := h
  obtain ⟨_, _, _, _, _, hsplit', -⟩ := h'
  exact (List.cons.inj (hsplit.symm.trans hsplit')).1

lemma not_loopback_of_loose {ip : String} (h : startsWith ip "127." = true)
    (hparse : parseIpv4Addr ip = none) : ¬DenotesLoopback ip := by
  rintro (⟨addr, haddr, -⟩ | rfl | rfl | rfl)
  · rw [hparse] at haddr
    cases haddr
  all_goals exact absurd h (by decide +kernel)

/-- Of the addresses that pass, all but the loose ones are loopback addresses. -/
lemma denotesLoopback_or_loose {ip : String}
    (h : startsWith ip "127." = true ∨ ip = "localhost") :
    DenotesLoopback ip ∨ (startsWith ip "127." = true ∧ parseIpv4Addr ip = none) := by
  rcases h with h | h
  · cases hparse : parseIpv4Addr ip with
    | none => exact .inr ⟨h, rfl⟩
    | some addr => exact .inl (.inl ⟨addr, hparse, a_of_startsWith hparse h⟩)
  · exact .inl (.inr (.inl h))

/-! ### The variable -/

lemma mapM_reduceOption {α β : Type*} {f : α → Option (Option β)} {l : List α}
    (h : ∀ a ∈ l, (f a).isSome) :
    (l.mapM f).map List.reduceOption = some (l.filterMap (fun a => (f a).join)) := by
  induction l with
  | nil => rfl
  | cons a l ih =>
    obtain ⟨b, hb⟩ := Option.isSome_iff_exists.mp (h a List.mem_cons_self)
    have htail := ih (fun a' ha' => h a' (List.mem_cons_of_mem a ha'))
    obtain ⟨bs, hbs, heq⟩ := Option.map_eq_some_iff.mp htail
    rw [List.mapM_cons, hb, hbs, List.filterMap_cons, hb, ← heq]
    cases b with
    | none => rfl
    | some b => rfl

/-- No item makes the start-up panic. -/
lemma testPoolNodes_eq (var : Option String) :
    testPoolNodes var =
      some ((testPoolItems var).filterMap (fun spec => (testNode spec).join)) := by
  refine mapM_reduceOption (fun spec _ => ?_)
  by_cases h : ∃ ip, HasForm spec ip ∧ (startsWith ip "127." = true ∨ ip = "localhost")
  · obtain ⟨ip, hform, hip⟩ := h
    obtain ⟨node, hnode, -⟩ := testNode_of_passes hform hip
    rw [hnode]
    rfl
  · rw [testNode_of_fails (fun ip hform hip => h ⟨ip, hform, hip⟩)]
    rfl

/-- The channel admits loopback addresses only, and skips everything else without a panic. -/
structure LoopbackOnly (var : Option String) : Prop where
  total : (testPoolNodes var).isSome
  loopback : ∀ nodes ∈ testPoolNodes var, ∀ n ∈ nodes, DenotesLoopback n.ip
  skipped : ∀ spec ∈ testPoolItems var, ¬LoopbackItem spec → testNode spec = some none

/-- For every value of the variable: the channel admits loopback addresses only exactly when no
item of the form has an address that begins with `127.` without being a literal. -/
theorem testPool_loopbackOnly_iff (var : Option String) :
    LoopbackOnly var ↔ ∀ spec ∈ testPoolItems var, ¬LooseItem spec := by
  constructor
  · rintro h spec hspec ⟨ip, hform, hip, hparse⟩
    obtain ⟨node, hnode, -⟩ := testNode_of_passes hform (.inl hip)
    have hskipped := h.skipped spec hspec (fun hloop => ?_)
    · rw [hnode] at hskipped
      cases hskipped
    · obtain ⟨ip', hform', hloop⟩ := hloop
      obtain rfl := hasForm_unique hform hform'
      exact not_loopback_of_loose hip hparse hloop
  · intro h
    have hitem : ∀ spec ∈ testPoolItems var, ∀ ip, HasForm spec ip →
        (startsWith ip "127." = true ∨ ip = "localhost") → DenotesLoopback ip := by
      intro spec hspec ip hform hip
      exact (denotesLoopback_or_loose hip).resolve_right
        (fun hloose => h spec hspec ⟨ip, hform, hloose⟩)
    refine ⟨by rw [testPoolNodes_eq]; rfl, fun nodes hnodes n hn => ?_, fun spec hspec hnot => ?_⟩
    · rw [testPoolNodes_eq, Option.mem_some] at hnodes
      subst hnodes
      obtain ⟨spec, hspec, hjoin⟩ := List.mem_filterMap.mp hn
      by_cases hpass : ∃ ip, HasForm spec ip ∧ (startsWith ip "127." = true ∨ ip = "localhost")
      · obtain ⟨ip, hform, hip⟩ := hpass
        obtain ⟨node, hnode, hnodeip⟩ := testNode_of_passes hform hip
        rw [hnode] at hjoin
        cases hjoin
        rw [hnodeip]
        exact hitem spec hspec ip hform hip
      · rw [testNode_of_fails (fun ip hform hip => hpass ⟨ip, hform, hip⟩)] at hjoin
        cases hjoin
    · refine testNode_of_fails (fun ip hform hip => hnot ⟨ip, hform, ?_⟩)
      exact hitem spec hspec ip hform hip

/-- A name of a public zone passes for an address of 127.0.0.0/8. -/
theorem testPool_admits_name :
    (∃ nodes, testPoolNodes (some "127.evil.example:80:residential:US:x:100") = some nodes ∧
      ∃ n ∈ nodes, n.ip = "127.evil.example") ∧
    ¬LoopbackOnly (some "127.evil.example:80:residential:US:x:100") := by
  have hnodes : testPoolNodes (some "127.evil.example:80:residential:US:x:100") =
      some [ProxyNode.new "127.evil.example" 80 none none "US" "residential" "x" 100] := by
    decide +kernel
  refine ⟨⟨_, hnodes, _, List.mem_singleton_self _, rfl⟩, fun h => ?_⟩
  have hloop := h.loopback _ hnodes _ (List.mem_singleton_self _)
  exact not_loopback_of_loose (by decide +kernel) (by decide +kernel) hloop

end IPProxyPool
