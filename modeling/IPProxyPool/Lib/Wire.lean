import Mathlib.Tactic

/-!
# Reading binary messages

A reader takes a value from the front of a byte string and returns it with the bytes it left.
What each reader accepts is stated as the byte strings it accepts, for an arbitrary rest.
-/

namespace Wire

abbrev Bytes := List UInt8

abbrev Reader (α : Type) := StateT Bytes Option α

def byte : Reader UInt8
  | [] => none
  | b :: s => some (b, s)

/-- One byte of a fixed value. -/
def literal (expected : UInt8) : Reader Unit := do
  let b ← byte
  guard (b = expected)

def exactly (n : Nat) : Reader Bytes := fun s =>
  if n ≤ s.length then some (s.take n, s.drop n) else none

/-- Two bytes, the high one first. -/
def be16 : Reader UInt16 := do
  let hi ← byte
  let lo ← byte
  return UInt16.ofNat (hi.toNat * 256 + lo.toNat)

/-- A length byte and as many bytes. -/
def prefixed : Reader Bytes := do
  let n ← byte
  exactly n.toNat

/-- The bytes up to the first `stop`, which is taken as well. -/
def upTo (stop : UInt8) : Reader Bytes
  | [] => none
  | b :: s => if b = stop then some ([], s) else (upTo stop s).map (fun p => (b :: p.1, p.2))

def cstring : Reader Bytes := upTo 0

/-- The value of a byte string that the reader takes whole. -/
def decode {α : Type} (r : Reader α) (s : Bytes) : Option α :=
  match r s with
  | some (a, []) => some a
  | _ => none

/-- `u16::to_be_bytes`. -/
def be16Bytes (n : UInt16) : Bytes := [UInt8.ofNat (n.toNat / 256), UInt8.ofNat (n.toNat % 256)]

variable {α β : Type} {s rest : Bytes}

@[simp] lemma length_be16Bytes (n : UInt16) : (be16Bytes n).length = 2 := rfl

lemma bind_eq_some {r : Reader α} {f : α → Reader β} {b : β} :
    (r >>= f) s = some (b, rest) ↔ ∃ a mid, r s = some (a, mid) ∧ f a mid = some (b, rest) := by
  change (r s).bind (fun p => f p.1 p.2) = some (b, rest) ↔ _
  simp [Option.bind_eq_some_iff]

lemma pure_eq_some {a b : α} :
    (pure a : Reader α) s = some (b, rest) ↔ b = a ∧ rest = s := by
  change some (a, s) = some (b, rest) ↔ _
  rw [Option.some.injEq, Prod.mk.injEq]
  tauto

lemma map_eq_some {r : Reader α} {f : α → β} {b : β} :
    (f <$> r) s = some (b, rest) ↔ ∃ a, r s = some (a, rest) ∧ b = f a := by
  change (r >>= fun a => pure (f a)) s = some (b, rest) ↔ _
  simp only [bind_eq_some, pure_eq_some]
  constructor
  · rintro ⟨a, mid, hread, hb, rfl⟩
    exact ⟨a, hread, hb⟩
  · rintro ⟨a, hread, hb⟩
    exact ⟨a, rest, hread, hb, rfl⟩

lemma guard_eq_some {p : Prop} [Decidable p] {u : Unit} :
    (guard p : Reader Unit) s = some (u, rest) ↔ p ∧ rest = s := by
  by_cases hp : p
  · rw [guard, if_pos hp, pure_eq_some]
    tauto
  · rw [guard, if_neg hp]
    change none = some (u, rest) ↔ _
    simp [hp]

lemma byte_eq_some {b : UInt8} : byte s = some (b, rest) ↔ s = b :: rest := by
  cases s with
  | nil => simp [byte]
  | cons c s => simp [byte]

lemma literal_eq_some {expected : UInt8} {u : Unit} :
    literal expected s = some (u, rest) ↔ s = expected :: rest := by
  simp only [literal, bind_eq_some, byte_eq_some, guard_eq_some]
  constructor
  · rintro ⟨b, mid, rfl, rfl, rfl⟩
    rfl
  · rintro rfl
    exact ⟨expected, rest, rfl, rfl, rfl⟩

lemma exactly_eq_some {n : Nat} {bs : Bytes} :
    exactly n s = some (bs, rest) ↔ s = bs ++ rest ∧ bs.length = n := by
  unfold exactly
  split
  · rename_i hle
    simp only [Option.some.injEq, Prod.mk.injEq]
    constructor
    · rintro ⟨rfl, rfl⟩
      exact ⟨(List.take_append_drop n s).symm, List.length_take_of_le hle⟩
    · rintro ⟨rfl, rfl⟩
      simp
  · rename_i hlt
    constructor
    · intro h
      cases h
    · rintro ⟨rfl, rfl⟩
      simp at hlt

lemma be16_eq_some {n : UInt16} : be16 s = some (n, rest) ↔ s = be16Bytes n ++ rest := by
  simp only [be16, bind_eq_some, byte_eq_some, pure_eq_some]
  constructor
  · rintro ⟨hi, _, rfl, lo, _, rfl, rfl, rfl⟩
    have hhi : hi.toNat < 256 := hi.toNat_lt
    have hlo : lo.toNat < 256 := lo.toNat_lt
    have hn : (UInt16.ofNat (hi.toNat * 256 + lo.toNat)).toNat = hi.toNat * 256 + lo.toNat := by
      rw [UInt16.toNat_ofNat', Nat.mod_eq_of_lt (by omega)]
    have hdiv : (hi.toNat * 256 + lo.toNat) / 256 = hi.toNat := by omega
    have hrem : (hi.toNat * 256 + lo.toNat) % 256 = lo.toNat := by omega
    rw [be16Bytes, hn, hdiv, hrem, UInt8.ofNat_toNat, UInt8.ofNat_toNat]
    rfl
  · rintro rfl
    have hn : n.toNat < 65536 := n.toNat_lt
    refine ⟨_, _, rfl, _, _, rfl, ?_, rfl⟩
    apply UInt16.toNat_inj.mp
    rw [UInt16.toNat_ofNat', UInt8.toNat_ofNat', UInt8.toNat_ofNat']
    omega

/-- Any two bytes are a number. -/
lemma exists_be16Bytes {bs : Bytes} (h : bs.length = 2) : ∃ n, bs = be16Bytes n := by
  obtain ⟨hi, lo, rfl⟩ := List.length_eq_two.mp h
  have hread : be16 [hi, lo] = some (UInt16.ofNat (hi.toNat * 256 + lo.toNat), []) := rfl
  have hbytes := be16_eq_some.mp hread
  rw [List.append_nil] at hbytes
  exact ⟨_, hbytes⟩

lemma toNat_length {bs : Bytes} (h : bs.length ≤ 255) :
    (UInt8.ofNat bs.length).toNat = bs.length := by
  rw [UInt8.toNat_ofNat']
  exact Nat.mod_eq_of_lt (by omega)

lemma prefixed_eq_some {bs : Bytes} :
    prefixed s = some (bs, rest) ↔
      bs.length ≤ 255 ∧ s = UInt8.ofNat bs.length :: (bs ++ rest) := by
  simp only [prefixed, bind_eq_some, byte_eq_some, exactly_eq_some]
  constructor
  · rintro ⟨n, _, rfl, rfl, hlen⟩
    have hn : n.toNat < 256 := n.toNat_lt
    refine ⟨by omega, ?_⟩
    rw [hlen, UInt8.ofNat_toNat]
  · rintro ⟨hle, rfl⟩
    exact ⟨_, _, rfl, rfl, (toNat_length hle).symm⟩

lemma upTo_eq_some {stop : UInt8} {bs : Bytes} :
    upTo stop s = some (bs, rest) ↔ s = bs ++ stop :: rest ∧ stop ∉ bs := by
  induction s generalizing bs with
  | nil => simp [upTo]
  | cons b s ih =>
    unfold upTo
    by_cases hb : b = stop
    · subst hb
      rw [if_pos rfl, Option.some.injEq, Prod.mk.injEq]
      cases bs with
      | nil => simp
      | cons c bs => simp_all
    · rw [if_neg hb, Option.map_eq_some_iff]
      cases bs with
      | nil => simp [hb]
      | cons c bs =>
        have hc : b = c → ¬stop = c := fun h => h ▸ Ne.symm hb
        simp [ih, Prod.ext_iff]
        tauto

lemma cstring_eq_some {bs : Bytes} :
    cstring s = some (bs, rest) ↔ s = bs ++ 0 :: rest ∧ 0 ∉ bs := upTo_eq_some

lemma decode_eq_some {r : Reader α} {a : α} : decode r s = some a ↔ r s = some (a, []) := by
  unfold decode
  split <;> simp_all

/-- What holds of the 256 bytes, which can be checked one by one. -/
lemma forall_byte {P : UInt8 → Prop} (h : ∀ n : Fin 256, P (UInt8.ofNat n)) (c : UInt8) : P c := by
  have hc := h ⟨c.toNat, c.toNat_lt⟩
  rwa [UInt8.ofNat_toNat] at hc

/-! ### The bytes of an array -/

lemma toList_loop (b : ByteArray) (i : Nat) (r : Bytes) :
    ByteArray.toList.loop b i r = r.reverse ++ b.data.toList.drop i := by
  fun_induction ByteArray.toList.loop b i r with
  | case1 i r hlt ih =>
    have hlt' : i < b.data.toList.length := hlt
    have hsize : i < b.data.size := hlt
    have hget : b.get! i = b.data.toList[i] := by
      change b.data.get!Internal i = _
      simp [Array.get!Internal, Array.getElem?_eq_getElem hsize]
    rw [ih, hget, List.drop_eq_getElem_cons hlt']
    simp
  | case2 i r hge =>
    have hge' : b.data.toList.length ≤ i := Nat.not_lt.mp hge
    rw [List.drop_eq_nil_of_le hge', List.append_nil]

lemma byteArray_toList (b : ByteArray) : b.toList = b.data.toList := by
  rw [ByteArray.toList, toList_loop]
  simp

end Wire
