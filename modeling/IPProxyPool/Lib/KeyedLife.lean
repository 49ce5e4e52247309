import Mathlib.Data.List.Basic
import Mathlib.Tactic

/-!
# Lives of records

A keyed store whose operations name one key each: an operation changes the record that it finds
under its key, or creates one. Records may also be removed at any time. A record is then what the
operations on its key have made of it since it was created, and a field that is set as a whole is as
the latest operation that sets it left it. Histories run back from the latest operation.
-/

namespace KeyedLife

variable {σ ε κ ρ β : Type*} {find : σ → κ → Option ρ} {key : ε → κ} {create : ε → Option ρ}
  {change : ε → ρ → ρ}

/-- Where the record that an operation leaves under a key comes from. -/
def LeftBy (find : σ → κ → Option ρ) (key : ε → κ) (create : ε → Option ρ) (change : ε → ρ → ρ)
    (s : σ) (e : ε) (k : κ) (r : ρ) : Prop :=
  k ≠ key e ∧ find s k = some r ∨
    k = key e ∧ (∃ old, find s k = some old ∧ r = change e old) ∨
    k = key e ∧ find s k = none ∧ create e = some r

/-- An operation on the key created the record, and the later ones made it what it is. -/
inductive Life (key : ε → κ) (create : ε → Option ρ) (change : ε → ρ → ρ) (k : κ) :
    List ε → ρ → Prop
  | created {e : ε} {r : ρ} (es : List ε) : key e = k → create e = some r →
      Life key create change k (e :: es) r
  | changed {e : ε} {es : List ε} {r : ρ} : key e = k → Life key create change k es r →
      Life key create change k (e :: es) (change e r)
  | passed {e : ε} {es : List ε} {r : ρ} : key e ≠ k → Life key create change k es r →
      Life key create change k (e :: es) r

/-- Each record of the store has its life in the history. -/
def Lives (find : σ → κ → Option ρ) (key : ε → κ) (create : ε → Option ρ) (change : ε → ρ → ρ)
    (s : σ) (es : List ε) : Prop :=
  ∀ k r, find s k = some r → Life key create change k es r

/-- One operation on the store is one operation more in the history. -/
theorem lives_step {s s' : σ} {e : ε} {es : List ε}
    (hleft : ∀ k r, find s' k = some r → LeftBy find key create change s e k r)
    (h : Lives find key create change s es) : Lives find key create change s' (e :: es) := by
  intro k r hr
  rcases hleft k r hr with ⟨hne, hold⟩ | ⟨hkey, old, hold, rfl⟩ | ⟨hkey, -, hnew⟩
  · exact .passed hne.symm (h k r hold)
  · exact .changed hkey.symm (h k old hold)
  · exact .created es hkey.symm hnew

namespace Life

variable {k : κ} {es : List ε} {r : ρ}

/-- What no change touches is as it was created. -/
theorem kept (f : ρ → β) (hchange : ∀ e r, f (change e r) = f r)
    (h : Life key create change k es r) :
    ∃ e ∈ es, key e = k ∧ ∃ first, create e = some first ∧ f r = f first := by
  induction h with
  | @created e r es hkey hcreate => exact ⟨e, List.mem_cons_self, hkey, r, hcreate, rfl⟩
  | @changed e es r hkey hlife ih =>
    obtain ⟨e', he', hkey', first, hfirst, hf⟩ := ih
    exact ⟨e', List.mem_cons_of_mem e he', hkey', first, hfirst, (hchange e r).trans hf⟩
  | @passed e es r hkey hlife ih =>
    obtain ⟨e', he', hkey', first, hfirst, hf⟩ := ih
    exact ⟨e', List.mem_cons_of_mem e he', hkey', first, hfirst, hf⟩

/-- A field that a change sets or keeps was set by the latest operation on the key that sets it. -/
theorem latest_set [DecidableEq κ] (f : ρ → β) (set : ε → Option β)
    (hcreate : ∀ e r, create e = some r → set e = some (f r))
    (hchange : ∀ e r, f (change e r) = (set e).getD (f r)) (h : Life key create change k es r) :
    ∃ e, es.find? (fun e => key e == k && (set e).isSome) = some e ∧ set e = some (f r) := by
  induction h with
  | @created e r es hkey hnew =>
    have hset := hcreate e r hnew
    exact ⟨e, List.find?_cons_of_pos (by simp [hkey, hset]), hset⟩
  | @changed e es r hkey hlife ih =>
    rw [hchange]
    cases hset : set e with
    | some b => exact ⟨e, List.find?_cons_of_pos (by simp [hkey, hset]), hset⟩
    | none =>
      obtain ⟨e', hfind, hset'⟩ := ih
      exact ⟨e', by rw [List.find?_cons_of_neg (by simp [hset]), hfind], hset'⟩
  | @passed e es r hkey hlife ih =>
    obtain ⟨e', hfind, hset'⟩ := ih
    exact ⟨e', by rw [List.find?_cons_of_neg (by simp [hkey]), hfind], hset'⟩

end Life

end KeyedLife
