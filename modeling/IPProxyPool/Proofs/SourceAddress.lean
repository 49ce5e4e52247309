import IPProxyPool.Model.FreeSource

/-!
# Addresses as the sources spell them

What `is_routable_ip` reads of a text, and which texts it reads are the printed form of the address
that it finds in them.
-/

namespace IPProxyPool
open RustText RustNet

/-- A dotted quad written as a reader of addresses expects it: nothing around it, no sign and no
leading zero. -/
structure PlainQuad (ip : String) : Prop where
  trimmed : trimString ip = ip
  no_sign : ∀ o ∈ split '.' ip, ∀ rest, o.toList ≠ '+' :: rest
  no_zeros : ∀ o ∈ split '.' ip, ∀ c rest, o.toList ≠ '0' :: c :: rest

lemma parseOctet_octetText (o : Fin 256) : parseOctet (String.ofList (octetText o)) = some o := by
  have hparse : parseUnsigned 256 (toString o.val) = some o.val := parseUnsigned_toString o.isLt
  have htext : String.ofList (octetText o) = toString o.val := by
    rw [octetText, ← Nat.toList_repr, String.ofList_toList]
    rfl
  rw [parseOctet, htext, hparse]
  simp [o.isLt]

lemma octetText_of_parseOctet {s : String} {o : Fin 256} (h : parseOctet s = some o)
    (hsign : ∀ rest, s.toList ≠ '+' :: rest) (hzeros : ∀ c rest, s.toList ≠ '0' :: c :: rest) :
    s.toList = octetText o := by
  obtain ⟨n, hn, heq⟩ := Option.bind_eq_some_iff.mp h
  split at heq
  · cases heq
    exact toList_of_parseUnsigned hn hsign hzeros
  · cases heq

lemma octetText_plain (o : Fin 256) : '.' ∉ octetText o ∧ (∀ rest, octetText o ≠ '+' :: rest) ∧
    ∀ c rest, octetText o ≠ '0' :: c :: rest := by
  have hshape : '.' ∉ octetText o ∧ (octetText o).head? ≠ some '+' ∧
      ((octetText o).head? = some '0' → (octetText o).length ≤ 1) := by
    revert o
    decide +kernel
  obtain ⟨hdot, hsign, hzero⟩ := hshape
  refine ⟨hdot, fun rest heq => hsign (by rw [heq, List.head?_cons]), fun c rest heq => ?_⟩
  have hlen := hzero (by rw [heq, List.head?_cons])
  rw [heq] at hlen
  simp at hlen

/-- The parts of a printed address. -/
lemma split_text (addr : Ipv4Addr) : split '.' addr.text =
    [addr.a, addr.b, addr.c, addr.d].map (fun o => String.ofList (octetText o)) := by
  unfold split Ipv4Addr.text
  rw [String.toList_ofList, List.splitOn_append_cons_self_of_not_mem (octetText_plain _).1,
    List.splitOn_append_cons_self_of_not_mem (octetText_plain _).1,
    List.splitOn_append_cons_self_of_not_mem (octetText_plain _).1,
    List.splitOn_eq_singleton (octetText_plain _).1]
  rfl

lemma trimString_text (addr : Ipv4Addr) : trimString addr.text = addr.text := by
  rw [trimString, trim_eq_self (text_noBlank addr), String.ofList_toList]

lemma ipOctets_text (addr : Ipv4Addr) : ipOctets addr.text = some addr := by
  rw [ipOctets, trimString_text, split_text]
  simp [parseOctet_octetText]

lemma ipOctets_eq_some {ip : String} {addr : Ipv4Addr} (h : ipOctets ip = some addr) :
    ∃ a b c d, split '.' (trimString ip) = [a, b, c, d] ∧ parseOctet a = some addr.a ∧
      parseOctet b = some addr.b ∧ parseOctet c = some addr.c ∧ parseOctet d = some addr.d := by
  unfold ipOctets at h
  split at h
  · rename_i a b c d hsplit
    obtain ⟨na, ha, h⟩ := Option.bind_eq_some_iff.mp h
    obtain ⟨nb, hb, h⟩ := Option.bind_eq_some_iff.mp h
    obtain ⟨nc, hc, h⟩ := Option.bind_eq_some_iff.mp h
    obtain ⟨nd, hd, h⟩ := Option.bind_eq_some_iff.mp h
    cases h
    exact ⟨a, b, c, d, hsplit, ha, hb, hc, hd⟩
  · cases h

lemma plainQuad_text (addr : Ipv4Addr) : PlainQuad addr.text := by
  have hpart : ∀ o ∈ split '.' addr.text, ∃ n : Fin 256, o.toList = octetText n := by
    intro o ho
    rw [split_text] at ho
    obtain ⟨n, -, rfl⟩ := List.mem_map.mp ho
    exact ⟨n, String.toList_ofList⟩
  refine ⟨trimString_text addr, fun o ho rest => ?_, fun o ho c rest => ?_⟩
  · obtain ⟨n, hn⟩ := hpart o ho
    rw [hn]
    exact (octetText_plain n).2.1 rest
  · obtain ⟨n, hn⟩ := hpart o ho
    rw [hn]
    exact (octetText_plain n).2.2 c rest

lemma PlainQuad.eq_text {ip : String} {addr : Ipv4Addr} (hplain : PlainQuad ip)
    (h : ipOctets ip = some addr) : ip = addr.text := by
  obtain ⟨a, b, c, d, hsplit, ha, hb, hc, hd⟩ := ipOctets_eq_some h
  rw [hplain.trimmed] at hsplit
  have htext : ∀ o ∈ split '.' ip, ∀ n, parseOctet o = some n → o.toList = octetText n :=
    fun o ho n hn => octetText_of_parseOctet hn (hplain.no_sign o ho) (hplain.no_zeros o ho)
  rw [hsplit] at htext
  have hparts : ip.toList.splitOn '.' = [a.toList, b.toList, c.toList, d.toList] := by
    have hmap := congrArg (List.map String.toList) hsplit
    simpa [split, List.map_map, Function.comp_def] using hmap
  have hjoin : ['.'].intercalate (ip.toList.splitOn '.') = ip.toList := List.intercalate_splitOn '.'
  rw [hparts, htext a (by simp) _ ha, htext b (by simp) _ hb, htext c (by simp) _ hc,
    htext d (by simp) _ hd] at hjoin
  apply String.toList_injective
  rw [Ipv4Addr.text, String.toList_ofList, ← hjoin]
  simp [List.intercalate]

/-- An address that is read from a text is printed as this text exactly if the text is plain. -/
theorem eq_text_iff {ip : String} {addr : Ipv4Addr} (h : ipOctets ip = some addr) :
    ip = addr.text ↔ PlainQuad ip := by
  constructor
  · rintro rfl
    exact plainQuad_text addr
  · exact fun hplain => hplain.eq_text h

lemma text_injective {addr addr' : Ipv4Addr} (h : addr.text = addr'.text) : addr = addr' := by
  have hread := ipOctets_text addr
  rw [h, ipOctets_text] at hread
  exact (Option.some.inj hread).symm

/-- Outside 0/8, 127/8, 224/3, 10/8, 172.16/12, 192.168/16 and 169.254/16. -/
structure Routable (addr : Ipv4Addr) : Prop where
  first : addr.a ≠ 0 ∧ addr.a ≠ 127 ∧ addr.a < 224 ∧ addr.a ≠ 10
  no_172_16 : ¬(addr.a = 172 ∧ 16 ≤ addr.b ∧ addr.b < 32)
  no_192_168 : ¬(addr.a = 192 ∧ addr.b = 168)
  no_169_254 : ¬(addr.a = 169 ∧ addr.b = 254)

lemma isRoutableIp_iff (ip : String) :
    isRoutableIp ip = true ↔ ∃ addr, ipOctets ip = some addr ∧ Routable addr := by
  unfold isRoutableIp
  cases hread : ipOctets ip with
  | none => simp
  | some addr =>
    obtain ⟨a, b, c, d⟩ := addr
    have hfirst : a < 224 ↔ ¬a ≥ 224 := not_le.symm
    constructor
    · intro h
      refine ⟨_, rfl, ?_⟩
      dsimp only at h
      split_ifs at h with h1 h2 h3
      simp only [not_or] at h1 h2
      exact ⟨⟨h1.1, h1.2.1, hfirst.mpr h1.2.2, h2.1⟩, h2.2.1, h2.2.2, h3⟩
    · rintro ⟨_, heq, ⟨h0, h127, h224, h10⟩, h172, h192, h169⟩
      cases heq
      dsimp only at *
      rw [if_neg (by simp only [not_or]; exact ⟨h0, h127, hfirst.mp h224⟩),
        if_neg (by simp only [not_or]; exact ⟨h10, h172, h192⟩), if_neg h169]

lemma isRoutableIp_text (addr : Ipv4Addr) : isRoutableIp addr.text = true ↔ Routable addr := by
  rw [isRoutableIp_iff, ipOctets_text]
  constructor
  · rintro ⟨_, heq, h⟩
    cases heq
    exact h
  · exact fun h => ⟨addr, rfl, h⟩

end IPProxyPool
