import LexicalModel.Proofs.Markup.Text
import Mathlib.Tactic.MkIffOfInductiveProp

/-!
# Character references

A character is written as itself, by its name if it has one, or by its number.  Numbers may have any
number of zeros in front, and the digits of a hexadecimal number either case.  Resolving references
goes through a text once, from left to right: what a reference stands for is never looked at again,
and an ampersand that starts no reference stays.

* `Numeral` : the ways to write a number
* `Refers` : the references to a character
* `reference?_eq_some_iff` : what is taken for a reference are just these
* `Unrecognised` : what looks like a reference and stands for nothing
* `unescape_decodes_once` : what resolving references does to every text
-/

namespace LexicalModel.Markup

/-! ### Numbers -/

/-- The digits `ds` write the number `n` to the given base: there may be zeros in front, and letters
may have either case. -/
def Numeral (base n : Nat) (ds : List Char) : Prop :=
  ∃ zeros, ds.map Char.toLower = List.replicate zeros '0' ++ Nat.toDigits base n

/-- The digit of a value, in either case. -/
theorem toLower_eq_digitChar_iff {d : Char} {n : Nat} (hn : n < 16) :
    d.toLower = Nat.digitChar n ↔ isHexDigit d = true ∧ hexValue d = n := by
  by_cases hd : d.toNat < 128
  · have htable : ∀ k < 128, ∀ n < 16, (Char.ofNat k).toLower = Nat.digitChar n ↔
        isHexDigit (Char.ofNat k) = true ∧ hexValue (Char.ofNat k) = n := by
      decide +kernel
    simpa using htable d.toNat hd n hn
  · -- no digit lies beyond the first 128 characters
    have hdigit : ∀ n < 16, (Nat.digitChar n).toNat < 128 := by decide
    have hplain : d.toLower = d := by
      have hupper : ¬(d.val ≥ 'A'.val ∧ d.val ≤ 'Z'.val) := by
        rintro ⟨-, hle⟩
        have hle' : d.toNat ≤ 90 := hle
        omega
      exact dif_neg hupper
    have hnot : isHexDigit d = false := by
      have hle : ∀ e : Char, e.toNat < 128 → ¬d ≤ e := fun e he hde =>
        absurd (show d.toNat ≤ e.toNat from hde) (by omega)
      have hten : d.isDigit = false := by
        rw [Bool.eq_false_iff, Ne, Char.isDigit_iff_toNat]
        rintro ⟨-, hnine⟩
        exact hle '9' (by decide) hnine
      simp [isHexDigit, hten, hle 'f' (by decide), hle 'F' (by decide)]
    rw [hplain, hnot]
    refine iff_of_false ?_ (by simp)
    rintro rfl
    exact hd (hdigit n hn)

/-- The number that digits denote, if they are read one by one. -/
theorem ofDigits_append_singleton (base : Nat) (digit : Char → Nat) (ds : List Char) (d : Char) :
    ofDigits base digit (ds ++ [d]) = ofDigits base digit ds * base + digit d := by
  simp [ofDigits]

theorem ofDigits_replicate_zero_append (base zeros : Nat) (ds : List Char) :
    ofDigits base hexValue (List.replicate zeros '0' ++ ds) = ofDigits base hexValue ds := by
  have hzeros : ofDigits base hexValue (List.replicate zeros '0') = 0 := by
    induction zeros with
    | zero => rfl
    | succ k ih =>
      have hzero : hexValue '0' = 0 := by decide
      rw [List.replicate_succ', ofDigits_append_singleton, ih, hzero, Nat.zero_mul]
  unfold ofDigits at hzeros ⊢
  rw [List.foldl_append, hzeros]

theorem hexValue_digitChar {v : Nat} (hv : v < 16) : hexValue (Nat.digitChar v) = v := by
  have htable : ∀ v < 16, hexValue (Nat.digitChar v) = v := by decide
  exact htable v hv

section Base

variable {base : Nat} (hbase : 1 < base) (hsmall : base ≤ 16)

include hbase hsmall

/-- The digits of a number are digits to its base and denote it. -/
theorem toDigits_spec (n : Nat) : (∀ d ∈ Nat.toDigits base n, ∃ v < base, d = Nat.digitChar v) ∧
    ofDigits base hexValue (Nat.toDigits base n) = n := by
  induction n using Nat.strong_induction_on with
  | _ n ih =>
    by_cases hn : n < base
    · rw [Nat.toDigits_of_lt_base hn]
      refine ⟨fun d hd => ⟨n, hn, List.mem_singleton.1 hd⟩, ?_⟩
      have hvalue : hexValue (Nat.digitChar n) = n := hexValue_digitChar (by omega)
      simp [ofDigits, hvalue]
    · have hmod : n % base < base := Nat.mod_lt n (by omega)
      obtain ⟨hfront, hquotient⟩ := ih (n / base) (Nat.div_lt_self (by omega) hbase)
      rw [Nat.toDigits_of_base_le hbase (by omega)]
      constructor
      · intro d hd
        rcases List.mem_append.1 hd with hd | hd
        · exact hfront d hd
        · exact ⟨n % base, hmod, List.mem_singleton.1 hd⟩
      · rw [ofDigits_append_singleton, hquotient, hexValue_digitChar (by omega), Nat.mul_comm,
          Nat.div_add_mod]

/-- Digits to a base write the number that they denote. -/
theorem numeral_ofDigits {ds : List Char} (hne : ds ≠ [])
    (hdigits : ∀ d ∈ ds, isHexDigit d = true ∧ hexValue d < base) :
    Numeral base (ofDigits base hexValue ds) ds := by
  induction ds using List.reverseRecOn with
  | nil => exact absurd rfl hne
  | append_singleton ds d ih =>
    obtain ⟨hfront, hlast⟩ := List.forall_mem_append.1 hdigits
    obtain ⟨hhex, hlt⟩ := hlast d (List.mem_singleton_self d)
    have hlower : d.toLower = Nat.digitChar (hexValue d) :=
      (toLower_eq_digitChar_iff (by omega)).2 ⟨hhex, rfl⟩
    have hsingle : Nat.toDigits base (hexValue d) = [d.toLower] := by
      rw [Nat.toDigits_of_lt_base hlt, hlower]
    rw [ofDigits_append_singleton]
    by_cases hnil : ds = []
    · subst hnil
      exact ⟨0, by simp [ofDigits, hsingle]⟩
    · obtain ⟨zeros, hzeros⟩ := ih hnil hfront
      by_cases hzero : ofDigits base hexValue ds = 0
      · -- so far there were zeros only
        have hone : Nat.toDigits base 0 = ['0'] := Nat.toDigits_of_lt_base (by omega)
        refine ⟨zeros + 1, ?_⟩
        rw [hzero, hone] at hzeros
        rw [hzero, Nat.zero_mul, Nat.zero_add, hsingle, List.map_append, hzeros,
          List.replicate_succ']
        rfl
      · have hdigits' := Nat.toDigits_append_toDigits hbase (Nat.pos_of_ne_zero hzero) hlt
        refine ⟨zeros, ?_⟩
        rw [Nat.mul_comm, ← hdigits', hsingle, List.map_append, hzeros, List.append_assoc]
        rfl

/-- **A number is written by digits that denote it**, and by nothing else. -/
theorem numeral_iff {n : Nat} {ds : List Char} : Numeral base n ds ↔
    ds ≠ [] ∧ (∀ d ∈ ds, isHexDigit d = true ∧ hexValue d < base) ∧
      ofDigits base hexValue ds = n := by
  constructor
  · rintro ⟨zeros, hzeros⟩
    obtain ⟨hdigits, hvalue⟩ := toDigits_spec hbase hsmall n
    have hlower : ∀ d ∈ ds, ∃ v < base, d.toLower = Nat.digitChar v := by
      intro d hd
      have hmem : d.toLower ∈ List.replicate zeros '0' ++ Nat.toDigits base n :=
        hzeros ▸ List.mem_map_of_mem hd
      rcases List.mem_append.1 hmem with hmem | hmem
      · exact ⟨0, by omega, List.eq_of_mem_replicate hmem⟩
      · exact hdigits _ hmem
    refine ⟨?_, ?_, ?_⟩
    · rintro rfl
      have hnil := List.append_eq_nil_iff.1 hzeros.symm
      exact Nat.toDigits_ne_nil hnil.2
    · intro d hd
      obtain ⟨v, hv, hd⟩ := hlower d hd
      obtain ⟨hhex, rfl⟩ := (toLower_eq_digitChar_iff (by omega)).1 hd
      exact ⟨hhex, hv⟩
    · -- the case of a digit does not change its value
      have hcase : ofDigits base hexValue ds = ofDigits base hexValue (ds.map Char.toLower) := by
        unfold ofDigits
        rw [List.foldl_map]
        refine List.foldl_ext _ _ _ fun m d hd => ?_
        obtain ⟨v, hv, hd⟩ := hlower d hd
        rw [((toLower_eq_digitChar_iff (by omega)).1 hd).2, hd, hexValue_digitChar (by omega)]
      rw [hcase, hzeros, ofDigits_replicate_zero_append, hvalue]
  · rintro ⟨hne, hdigits, rfl⟩
    exact numeral_ofDigits hbase hsmall hne hdigits

end Base

theorem isDigit_iff {d : Char} : d.isDigit = true ↔ isHexDigit d = true ∧ hexValue d < 10 := by
  by_cases hd : d.isDigit = true
  · have hle : d.toNat ≤ 57 := (Char.isDigit_iff_toNat.1 hd).2
    have hzero : '0'.toNat = 48 := rfl
    simp only [isHexDigit, hexValue, hd, Bool.true_or, if_true, true_and, true_iff]
    omega
  · have hten : ¬hexValue d < 10 := by
      simp only [hexValue, hd, Bool.false_eq_true, if_false]
      split_ifs <;> omega
    simp [hd, hten]

theorem isHexDigit_iff {d : Char} :
    isHexDigit d = true ↔ isHexDigit d = true ∧ hexValue d < 16 := by
  refine ⟨fun hd => ⟨hd, ?_⟩, And.left⟩
  have hdigits : '0'.toNat = 48 ∧ '9'.toNat = 57 := ⟨rfl, rfl⟩
  have hletters : 'a'.toNat = 97 ∧ 'f'.toNat = 102 ∧ 'A'.toNat = 65 ∧ 'F'.toNat = 70 :=
    ⟨rfl, rfl, rfl, rfl⟩
  have hle : ∀ c e : Char, c ≤ e ↔ c.toNat ≤ e.toNat := fun _ _ => Iff.rfl
  simp only [isHexDigit, Bool.or_eq_true, Bool.and_eq_true, decide_eq_true_eq, hle,
    Char.isDigit_iff_toNat] at hd
  simp only [hexValue, Char.isDigit_iff_toNat, hle]
  split_ifs <;> omega

/-! ### References -/

/-- The characters that have a name. -/
inductive Entity : String → Char → Prop
  | lt : Entity "lt" '<'
  | gt : Entity "gt" '>'
  | quot : Entity "quot" '"'
  | apos : Entity "apos" '\x27'
  | amp : Entity "amp" '&'

/-- A reference by number. -/
@[mk_iff]
inductive Numbered (n : Nat) : List Char → Prop
  | decimal {ds : List Char} : Numeral 10 n ds → Numbered n ('&' :: '#' :: (ds ++ [';']))
  | hexadecimal {ds : List Char} : Numeral 16 n ds → Numbered n ('&' :: '#' :: 'x' :: (ds ++ [';']))

/-- A reference to a character, by its name or by its code point. -/
inductive Refers (c : Char) : List Char → Prop
  | named {name : String} : Entity name c → Refers c ('&' :: (name.toList ++ [';']))
  | numbered {r : List Char} : Numbered c.toNat r → Refers c r

theorem refers_cons_iff {c : Char} {r : List Char} : Refers c ('&' :: r) ↔
    (∃ name, Entity name c ∧ r = name.toList ++ [';']) ∨
    (∃ ds, Numeral 10 c.toNat ds ∧ r = '#' :: (ds ++ [';'])) ∨
    ∃ ds, Numeral 16 c.toNat ds ∧ r = '#' :: 'x' :: (ds ++ [';']) := by
  constructor
  · intro h
    cases h with
    | named hname => exact .inl ⟨_, hname, rfl⟩
    | numbered h =>
      cases h with
      | decimal hds => exact .inr (.inl ⟨_, hds, rfl⟩)
      | hexadecimal hds => exact .inr (.inr ⟨_, hds, rfl⟩)
  · rintro (⟨name, hname, rfl⟩ | ⟨ds, hds, rfl⟩ | ⟨ds, hds, rfl⟩)
    · exact .named hname
    · exact .numbered (.decimal hds)
    · exact .numbered (.hexadecimal hds)

/-- The look of a reference: an ampersand, and a semicolon that is the first one after it. -/
structure Enclosed (r : List Char) (body : List Char) : Prop where
  /-- How it starts and ends. -/
  eq : r = '&' :: (body ++ [';'])
  /-- No other reference starts inside. -/
  ampersand : '&' ∉ body
  /-- It does not end inside. -/
  semicolon : ';' ∉ body

theorem Numeral.not_mem {base n : Nat} (hbase : 1 < base) (hsmall : base ≤ 16) {ds : List Char}
    (h : Numeral base n ds) {d : Char} (hd : isHexDigit d = false) : d ∉ ds := by
  intro hmem
  have hhex := (((numeral_iff hbase hsmall).1 h).2.1 d hmem).1
  rw [hd] at hhex
  cases hhex

theorem Numbered.enclosed {n : Nat} {r : List Char} (h : Numbered n r) :
    ∃ body, Enclosed r ('#' :: body) := by
  cases h with
  | @decimal ds hds =>
    have hnot : ∀ {d : Char}, isHexDigit d = false → d ∉ ds := hds.not_mem (by decide) (by decide)
    refine ⟨ds, rfl, ?_, ?_⟩
    · simpa using hnot (by decide : isHexDigit '&' = false)
    · simpa using hnot (by decide : isHexDigit ';' = false)
  | @hexadecimal ds hds =>
    have hnot : ∀ {d : Char}, isHexDigit d = false → d ∉ ds := hds.not_mem (by decide) (by decide)
    refine ⟨'x' :: ds, rfl, ?_, ?_⟩
    · simpa using hnot (by decide : isHexDigit '&' = false)
    · simpa using hnot (by decide : isHexDigit ';' = false)

theorem Refers.enclosed {c : Char} {r : List Char} (h : Refers c r) : ∃ body, Enclosed r body := by
  cases h with
  | named hname => cases hname <;> exact ⟨_, rfl, by decide, by decide⟩
  | numbered h =>
    obtain ⟨body, hbody⟩ := h.enclosed
    exact ⟨_, hbody⟩

theorem Enclosed.unique {r body body' : List Char} (h : Enclosed r body) (h' : Enclosed r body') :
    body = body' := by
  have heq := h.eq.symm.trans h'.eq
  exact List.append_cancel_right (List.cons.inj heq).2

/-- Two references in front of one text are the same. -/
theorem Enclosed.eq_of_front {r r' body body' rest : List Char} (h : Enclosed r body)
    (h' : Enclosed r' body') (hfront : r' <+: r ++ rest) : body' = body := by
  obtain ⟨more, hmore⟩ := hfront
  have heq : body' ++ ';' :: more = body ++ ';' :: rest := by
    simpa [h.eq, h'.eq] using hmore
  rw [← takeWhile_ne_append h'.semicolon more, heq, takeWhile_ne_append h.semicolon]

/-! ### Recognising references -/

theorem scalar?_eq_some_iff {n : Nat} {c : Char} : scalar? n = some c ↔ c.toNat = n := by
  unfold scalar?
  constructor
  · intro h
    split_ifs at h with hvalid
    cases h
    rw [Char.ofNat, dif_pos hvalid]
    rfl
  · rintro rfl
    have hvalid : c.toNat.isValidChar := c.valid
    rw [if_pos hvalid, Char.ofNat_toNat]

section Code

variable {base : Nat} {isDigit : Char → Bool} {cs : List Char} {c : Char} {n : Nat}

theorem codeReference?_eq_some_iff (hbase : 1 < base) (hsmall : base ≤ 16)
    (hdigit : ∀ d, isDigit d = true ↔ isHexDigit d = true ∧ hexValue d < base) :
    codeReference? base isDigit cs = some (c, n) ↔
      ∃ ds, Numeral base c.toNat ds ∧ ds ++ [';'] <+: cs ∧ ds.length + 1 = n := by
  constructor
  · intro h
    obtain ⟨rest, hrest⟩ := List.takeWhile_prefix isDigit (l := cs)
    have hdrop : cs.drop (cs.takeWhile isDigit).length = rest := by
      have hleft : (cs.takeWhile isDigit ++ rest).drop (cs.takeWhile isDigit).length = rest :=
        List.drop_left
      rwa [hrest] at hleft
    simp only [codeReference?, hdrop] at h
    split_ifs at h with hnil
    split at h
    · next more =>
      obtain ⟨d, hd, he⟩ := Option.map_eq_some_iff.1 h
      cases he
      refine ⟨cs.takeWhile isDigit, ?_, ⟨more, ?_⟩, rfl⟩
      · refine (numeral_iff hbase hsmall).2 ⟨hnil, ?_, (scalar?_eq_some_iff.1 hd).symm⟩
        intro e he
        exact (hdigit e).1 (List.mem_takeWhile_imp he)
      · rw [List.append_assoc, List.singleton_append, hrest]
    · cases h
  · rintro ⟨ds, hds, ⟨more, rfl⟩, rfl⟩
    obtain ⟨hne, hdigits, hvalue⟩ := (numeral_iff hbase hsmall).1 hds
    have hsemicolon : isDigit ';' = false := by
      rw [Bool.eq_false_iff, Ne, hdigit]
      rintro ⟨hhex, -⟩
      exact absurd hhex (by decide)
    have htake : (ds ++ [';'] ++ more).takeWhile isDigit = ds := by
      rw [List.append_assoc, List.takeWhile_append_of_pos fun d hd => (hdigit d).2 (hdigits d hd)]
      simp [hsemicolon]
    simp only [codeReference?, htake, if_neg hne]
    rw [List.append_assoc, List.drop_left]
    simp only [List.singleton_append, hvalue, scalar?_eq_some_iff.2 rfl, Option.map_some]

end Code

theorem entity_of_mem {name : List Char} {c : Char} (h : (name, c) ∈ namedCharacters) :
    ∃ s, Entity s c ∧ s.toList = name := by
  simp only [namedCharacters, List.mem_cons, Prod.mk.injEq, List.not_mem_nil, or_false] at h
  rcases h with ⟨rfl, rfl⟩ | ⟨rfl, rfl⟩ | ⟨rfl, rfl⟩ | ⟨rfl, rfl⟩ | ⟨rfl, rfl⟩
  · exact ⟨_, .lt, rfl⟩
  · exact ⟨_, .gt, rfl⟩
  · exact ⟨_, .quot, rfl⟩
  · exact ⟨_, .apos, rfl⟩
  · exact ⟨_, .amp, rfl⟩

/-- A reference in front of a text is recognised. -/
theorem reference?_of_refers {c : Char} {r : List Char} (h : Refers c ('&' :: r))
    (more : List Char) : reference? (r ++ more) = some (c, r.length) := by
  rcases refers_cons_iff.1 h with ⟨name, hname, rfl⟩ | ⟨ds, hds, rfl⟩ | ⟨ds, hds, rfl⟩
  · cases hname <;> rfl
  · have hcode : codeReference? 10 Char.isDigit (ds ++ [';'] ++ more) = some (c, ds.length + 1) :=
      (codeReference?_eq_some_iff (by decide) (by decide) fun _ => isDigit_iff).2
        ⟨ds, hds, List.prefix_append _ _, rfl⟩
    have hx : 'x' ∉ ds := hds.not_mem (by decide) (by decide) (by decide)
    have hne : ds ≠ [] := ((numeral_iff (by decide) (by decide)).1 hds).1
    rw [List.cons_append, reference?]
    · rw [hcode]
      simp
    · -- a digit is no `x`
      intro rest hrest
      obtain ⟨d, ds, rfl⟩ := List.exists_cons_of_ne_nil hne
      cases hrest
      exact hx List.mem_cons_self
  · have hcode : codeReference? 16 isHexDigit (ds ++ [';'] ++ more) = some (c, ds.length + 1) :=
      (codeReference?_eq_some_iff (by decide) (by decide) fun _ => isHexDigit_iff).2
        ⟨ds, hds, List.prefix_append _ _, rfl⟩
    rw [List.cons_append, List.cons_append, reference?, hcode]
    simp

/-- What is recognised is a reference. -/
theorem refers_of_reference? {cs : List Char} {c : Char} {n : Nat}
    (h : reference? cs = some (c, n)) : ∃ r, Refers c ('&' :: r) ∧ r <+: cs ∧ r.length = n := by
  unfold reference? at h
  split at h
  · next rest =>
    obtain ⟨⟨d, m⟩, hcode, he⟩ := Option.map_eq_some_iff.1 h
    obtain ⟨ds, hds, hfront, rfl⟩ :=
      (codeReference?_eq_some_iff (by decide) (by decide) fun _ => isHexDigit_iff).1 hcode
    cases he
    refine ⟨'#' :: 'x' :: (ds ++ [';']), .numbered (.hexadecimal hds), ?_, by simp⟩
    simpa using hfront
  · next rest hx =>
    obtain ⟨⟨d, m⟩, hcode, he⟩ := Option.map_eq_some_iff.1 h
    obtain ⟨ds, hds, hfront, rfl⟩ :=
      (codeReference?_eq_some_iff (by decide) (by decide) fun _ => isDigit_iff).1 hcode
    cases he
    refine ⟨'#' :: (ds ++ [';']), .numbered (.decimal hds), ?_, by simp⟩
    simpa using hfront
  · obtain ⟨⟨name, d⟩, hfind, he⟩ := Option.map_eq_some_iff.1 h
    obtain ⟨s, hs, rfl⟩ := entity_of_mem (List.mem_of_find?_eq_some hfind)
    have hfront : s.toList ++ [';'] <+: cs := by simpa using List.find?_some hfind
    cases he
    exact ⟨s.toList ++ [';'], .named hs, hfront, by simp⟩

/-- **What is taken for a reference are the references**, with their lengths. -/
theorem reference?_eq_some_iff {cs : List Char} {c : Char} {n : Nat} :
    reference? cs = some (c, n) ↔ ∃ r, Refers c ('&' :: r) ∧ r <+: cs ∧ r.length = n := by
  refine ⟨refers_of_reference?, ?_⟩
  rintro ⟨r, hr, ⟨more, rfl⟩, rfl⟩
  exact reference?_of_refers hr more

theorem reference?_eq_none_iff {cs : List Char} :
    reference? cs = none ↔ ∀ c r, Refers c r → ¬r <+: '&' :: cs := by
  constructor
  · intro h c r hr hfront
    obtain ⟨body, hbody⟩ := hr.enclosed
    obtain ⟨more, hmore⟩ := hfront
    rw [hbody.eq, List.cons_append] at hmore
    rw [hbody.eq] at hr
    have hsome := reference?_of_refers hr more
    rw [(List.cons.inj hmore).2, h] at hsome
    cases hsome
  · intro h
    cases hreference : reference? cs with
    | none => rfl
    | some p =>
      obtain ⟨r, hr, hfront, -⟩ := reference?_eq_some_iff.1 hreference
      exact absurd (List.cons_prefix_cons.2 ⟨rfl, hfront⟩) (h p.1 _ hr)

/-! ### Resolving references -/

theorem unescapeFrom_skip (r rest : List Char) :
    unescapeFrom r.length (r ++ rest) = unescape rest := by
  induction r with
  | nil => rfl
  | cons c r ih => exact ih

theorem unescape_cons {c : Char} (hc : c ≠ '&') (cs : List Char) :
    unescape (c :: cs) = c :: unescape cs := by
  rw [unescape, unescapeFrom, if_neg hc, unescape]

theorem unescape_of_refers {c : Char} {r : List Char} (h : Refers c r) (cs : List Char) :
    unescape (r ++ cs) = c :: unescape cs := by
  obtain ⟨body, hbody⟩ := h.enclosed
  rw [hbody.eq] at h ⊢
  rw [List.cons_append, unescape, unescapeFrom, if_pos rfl, reference?_of_refers h]
  simp only [unescapeFrom_skip]

/-- An ampersand that starts no reference stays. -/
theorem unescape_ampersand {cs : List Char} (h : ∀ c r, Refers c r → ¬r <+: '&' :: cs) :
    unescape ('&' :: cs) = '&' :: unescape cs := by
  rw [unescape, unescapeFrom, if_pos rfl, reference?_eq_none_iff.2 h]
  rfl

theorem unescape_append_of_not_mem {cs : List Char} (h : '&' ∉ cs) (rest : List Char) :
    unescape (cs ++ rest) = cs ++ unescape rest := by
  induction cs with
  | nil => rfl
  | cons c cs ih =>
    rw [List.mem_cons, not_or] at h
    rw [List.cons_append, unescape_cons (Ne.symm h.1), ih h.2, List.cons_append]

theorem prefix_of_prefix_append {d : Char} {r cs after : List Char} (h : r <+: cs ++ d :: after)
    (hd : d ∉ r) : r <+: cs := by
  obtain ⟨more, hmore⟩ := h
  rcases List.append_eq_append_iff.1 hmore with ⟨rest, hcs, -⟩ | ⟨bs, hr, hbs⟩
  · exact ⟨rest, hcs.symm⟩
  · cases bs with
    | nil => exact ⟨[], by rw [hr, List.append_nil, List.append_nil]⟩
    | cons b bs =>
      cases hbs
      exact absurd (hr ▸ List.mem_append_right cs List.mem_cons_self) hd

/-- No reference reaches over an ampersand, so a text can be cut in front of one. -/
theorem unescape_append_ampersand (before after : List Char) :
    unescape (before ++ '&' :: after) = unescape before ++ unescape ('&' :: after) := by
  induction hlength : before.length using Nat.strong_induction_on generalizing before with
  | _ n ih =>
    cases before with
    | nil => rfl
    | cons c cs =>
      by_cases hc : c = '&'
      · subst hc
        cases hreference : reference? cs with
        | some p =>
          obtain ⟨r, hr, ⟨rest, rfl⟩, -⟩ := reference?_eq_some_iff.1 hreference
          have hrest := ih rest.length (by simp at hlength; omega) rest rfl
          have hwhole := unescape_of_refers hr (rest ++ '&' :: after)
          have hbefore := unescape_of_refers hr rest
          simp only [List.cons_append, List.append_assoc] at hwhole hbefore ⊢
          rw [hwhole, hbefore, hrest, List.cons_append]
        | none =>
          have hno := reference?_eq_none_iff.1 hreference
          have hno' : ∀ c r, Refers c r → ¬r <+: '&' :: (cs ++ '&' :: after) := by
            intro c r hr hfront
            obtain ⟨body, hbody⟩ := hr.enclosed
            have htail : '&' ∉ body ++ [';'] := by simp [hbody.ampersand]
            rw [hbody.eq, List.cons_prefix_cons] at hfront
            refine hno c r hr ?_
            rw [hbody.eq, List.cons_prefix_cons]
            exact ⟨rfl, prefix_of_prefix_append hfront.2 htail⟩
          have hrest := ih cs.length (by simp at hlength; omega) cs rfl
          rw [List.cons_append, unescape_ampersand hno', unescape_ampersand hno, hrest,
            List.cons_append]
      · have hrest := ih cs.length (by simp at hlength; omega) cs rfl
        rw [List.cons_append, unescape_cons hc, unescape_cons hc, hrest, List.cons_append]

/-! ### What stays -/

/-- What looks like a reference and stands for no character: a reference to a surrogate or to a
number beyond all code points, and an unknown name. -/
inductive Unrecognised : List Char → Prop
  | surrogate {n : Nat} {r : List Char} : Numbered n r → 0xD800 ≤ n → n ≤ 0xDFFF → Unrecognised r
  | beyond {n : Nat} {r : List Char} : Numbered n r → 0x10FFFF < n → Unrecognised r
  | unknown {name : List Char} : '&' ∉ name → ';' ∉ name → name.head? ≠ some '#' →
    (∀ s c, Entity s c → s.toList ≠ name) → Unrecognised ('&' :: (name ++ [';']))

/-- A reference by number tells the number. -/
theorem Numbered.unique {n m : Nat} {r : List Char} (h : Numbered n r) (h' : Numbered m r) :
    n = m := by
  have hvalue : ∀ {base k k' : Nat} {ds : List Char}, 1 < base → base ≤ 16 → Numeral base k ds →
      Numeral base k' ds → k = k' := by
    intro base k k' ds hbase hsmall hk hk'
    rw [← ((numeral_iff hbase hsmall).1 hk).2.2, ((numeral_iff hbase hsmall).1 hk').2.2]
  -- a decimal number does not start with an `x`
  have hx : ∀ {k : Nat} {ds ds' : List Char}, Numeral 10 k ds → ds ++ [';'] ≠ 'x' :: ds' := by
    intro k ds ds' hds heq
    have hne := ((numeral_iff (by decide) (by decide)).1 hds).1
    obtain ⟨d, ds, rfl⟩ := List.exists_cons_of_ne_nil hne
    cases heq
    have hdigit : isHexDigit 'x' = false := by decide
    exact hds.not_mem (by decide) (by decide) hdigit List.mem_cons_self
  rcases (numbered_iff n r).1 h with ⟨ds, hds, rfl⟩ | ⟨ds, hds, rfl⟩ <;>
    rcases (numbered_iff m _).1 h' with ⟨ds', hds', heq⟩ | ⟨ds', hds', heq⟩ <;>
    simp only [List.cons.injEq, true_and] at heq
  · rw [List.append_cancel_right heq] at hds
    exact hvalue (by decide) (by decide) hds hds'
  · exact absurd heq (hx hds)
  · exact absurd heq.symm (hx hds')
  · rw [List.append_cancel_right heq] at hds
    exact hvalue (by decide) (by decide) hds hds'

theorem Numbered.toNat_eq {n : Nat} {r : List Char} (h : Numbered n r) {c : Char}
    (hc : Refers c r) : c.toNat = n := by
  cases hc with
  | named hname =>
    obtain ⟨body, hbody⟩ := h.enclosed
    have hhash := List.append_cancel_right (List.cons.inj hbody.eq).2
    cases hname <;> exact absurd hhash (by simp)
  | numbered hc => exact hc.unique h

theorem Unrecognised.not_refers {r : List Char} (h : Unrecognised r) (c : Char) : ¬Refers c r := by
  intro hc
  have hvalid : c.toNat < 0xD800 ∨ 0xDFFF < c.toNat ∧ c.toNat < 0x110000 := c.valid
  cases h with
  | surrogate hn hlo hhi =>
    have hnumber := hn.toNat_eq hc
    omega
  | beyond hn hbeyond =>
    have hnumber := hn.toNat_eq hc
    omega
  | @unknown name hamp hsemi hhash hunknown =>
    -- a reference by number starts with `#`
    have hnumber : ∀ body : List Char, name ++ [';'] ≠ '#' :: body := by
      intro body heq
      cases name with
      | nil => simp at heq
      | cons d name =>
        cases heq
        exact hhash rfl
    rcases refers_cons_iff.1 hc with ⟨s, hs, heq⟩ | ⟨ds, -, heq⟩ | ⟨ds, -, heq⟩
    · exact hunknown s c hs (List.append_cancel_right heq).symm
    · exact hnumber _ heq
    · exact hnumber _ heq

theorem Unrecognised.enclosed {r : List Char} (h : Unrecognised r) : ∃ body, Enclosed r body := by
  cases h with
  | surrogate hn _ _ => exact ⟨_, hn.enclosed.choose_spec⟩
  | beyond hn _ => exact ⟨_, hn.enclosed.choose_spec⟩
  | unknown hamp hsemi _ _ => exact ⟨_, rfl, hamp, hsemi⟩

/-- What stands for nothing stays, whatever stands around it. -/
theorem unescape_unrecognised {r : List Char} (h : Unrecognised r) (before after : List Char) :
    unescape (before ++ (r ++ after)) = unescape before ++ (r ++ unescape after) := by
  obtain ⟨body, hbody⟩ := h.enclosed
  have hno : ∀ c r', Refers c r' → ¬r' <+: r ++ after := by
    intro c r' hr' hfront
    obtain ⟨body', hbody'⟩ := hr'.enclosed
    have hsame : r' = r := by
      rw [hbody'.eq, hbody.eq, hbody.eq_of_front hbody' hfront]
    exact h.not_refers c (hsame ▸ hr')
  have htail : '&' ∉ body ++ [';'] := by simp [hbody.ampersand]
  rw [hbody.eq, List.cons_append] at hno
  rw [hbody.eq, List.cons_append, unescape_append_ampersand, unescape_ampersand hno,
    unescape_append_of_not_mem htail, List.cons_append]

/-! ### Resolving the references of a text -/

/-- A character as it may be written: as itself, unless it is an ampersand, or as a reference. -/
inductive Encodes (c : Char) : List Char → Prop
  | raw : c ≠ '&' → Encodes c [c]
  | reference {r : List Char} : Refers c r → Encodes c r

theorem unescape_of_encodes {c : Char} {e : List Char} (h : Encodes c e) (cs : List Char) :
    unescape (e ++ cs) = c :: unescape cs := by
  cases h with
  | raw hc => exact unescape_cons hc cs
  | reference hr => exact unescape_of_refers hr cs

theorem unescape_of_no_reference {cs : List Char} (h : ∀ c r, Refers c r → ¬r <:+: cs) :
    unescape cs = cs := by
  induction cs with
  | nil => rfl
  | cons d cs ih =>
    have hrest : unescape cs = cs := ih fun c r hr hwithin =>
      h c r hr (hwithin.trans (List.suffix_cons d cs).isInfix)
    by_cases hd : d = '&'
    · subst hd
      have hno : ∀ c r, Refers c r → ¬r <+: '&' :: cs := fun c r hr hfront =>
        h c r hr hfront.isInfix
      rw [unescape_ampersand hno, hrest]
    · rw [unescape_cons hd, hrest]

/-- **References are resolved exactly once.**  However each character of a text is written,
resolving the references gives the text.  What looks like a reference and stands for no character
stays, and so does an ampersand that starts no reference, whatever stands around it; and a text
without references stays as it is. -/
theorem unescape_decodes_once :
    (∀ items : List (Char × List Char), (∀ item ∈ items, Encodes item.1 item.2) →
      unescape (items.flatMap Prod.snd) = items.map Prod.fst) ∧
    (∀ before r after, Unrecognised r →
      unescape (before ++ (r ++ after)) = unescape before ++ (r ++ unescape after)) ∧
    (∀ before after, (∀ c r, Refers c r → ¬r <+: '&' :: after) →
      unescape (before ++ '&' :: after) = unescape before ++ '&' :: unescape after) ∧
    ∀ cs, (∀ c r, Refers c r → ¬r <:+: cs) → unescape cs = cs := by
  refine ⟨?_, fun before r after h => unescape_unrecognised h before after, ?_, fun cs =>
    unescape_of_no_reference⟩
  · intro items hitems
    induction items with
    | nil => rfl
    | cons item items ih =>
      obtain ⟨hitem, hrest⟩ := List.forall_mem_cons.1 hitems
      rw [List.flatMap_cons, unescape_of_encodes hitem, ih hrest, List.map_cons]
  · intro before after hno
    rw [unescape_append_ampersand, unescape_ampersand hno]

/-- A text that a reference leaves behind and that looks like one, a surrogate between references,
an ampersand in front of a blank, and a text without references. -/
theorem unescape_mixed_texts :
    unescape "&amp;lt;&#x000E9;".toList = "&lt;é".toList ∧
    unescape "&lt;&#xD800;&#62;".toList = "<&#xD800;>".toList ∧
    unescape "&apos;& &quot;".toList = "\x27& \"".toList ∧
    unescape "a & b".toList = "a & b".toList := by
  obtain ⟨hdecodes, hstays, hbare, hplain⟩ := unescape_decodes_once
  refine ⟨?_, ?_, ?_, ?_⟩
  · have hnumeral : Numeral 16 'é'.toNat "000E9".toList := ⟨3, by decide⟩
    refine hdecodes [('&', "&amp;".toList), ('l', ['l']), ('t', ['t']), (';', [';']),
      ('é', "&#x000E9;".toList)] ?_
    simp only [List.forall_mem_cons]
    exact ⟨.reference (.named .amp), .raw (by decide), .raw (by decide), .raw (by decide),
      .reference (.numbered (.hexadecimal hnumeral)), by simp⟩
  · have hnumeral : Numeral 16 0xD800 "D800".toList := ⟨0, by decide⟩
    have hsurrogate : Unrecognised "&#xD800;".toList :=
      .surrogate (.hexadecimal hnumeral) (by decide) (by decide)
    exact hstays "&lt;".toList _ "&#62;".toList hsurrogate
  · exact hbare "&apos;".toList " &quot;".toList (reference?_eq_none_iff.1 rfl)
  · refine hplain _ fun c r hr hwithin => ?_
    obtain ⟨body, hbody⟩ := hr.enclosed
    have hsemicolon : ';' ∈ "a & b".toList := hwithin.subset (by rw [hbody.eq]; simp)
    exact absurd hsemicolon (by decide)

end LexicalModel.Markup
