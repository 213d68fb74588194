import LexicalModel.Proofs.Generator.Lines
import LexicalModel.Proofs.Source

/-!
# Sources of a word breaker stay behind

The sources that a word-breaking part lists are of use while the model is compiled, and of none
after that.  They are taken out of the description before anything else is done, so that they are
gone also where the word breaker cannot be added; the class and the configuration stay as they are.
A script to which the word breaker cannot be added is left as it was.

* `WordBreaking.IsRead` : word-breaking parts that an author can have written
* `WordBreaking.literal_reads_back` : the configuration in a script, on one line and without sources
* `IsEmitted` : what becomes of the description and of the script
* `sources_stay_behind` : it does, for every word breaker
-/

namespace LexicalModel

open Result (andThen andThen_invariant andThen_error_invariant)

open Json (Value Node Document Carried ReadsAs Form)

/-! ### Literals on one line -/

namespace Json

theorem newline_not_mem_escapeChar (c : Char) : '\n' ∉ escapeChar c := by
  have hhex : ∀ n < 16, '\n' ≠ hexChar n := by decide
  unfold escapeChar
  split_ifs with hquote hslash hb hf hn hr ht hcontrol
  any_goals decide
  · have hhigh := hhex (c.toNat / 16) (by omega)
    have hlow := hhex (c.toNat % 16) (by omega)
    simp [hhigh, hlow]
  · simpa using Ne.symm hn

theorem newline_not_mem_stringChars (s : String) : '\n' ∉ stringChars s := by
  simp [stringChars, newline_not_mem_escapeChar]

theorem newline_not_mem_decimalChars (n : Nat) : '\n' ∉ decimalChars n := by
  intro h
  exact absurd (isDigit_of_mem_decimalChars h) (by decide)

theorem mem_commaSep {c : Char} {ts : List (List Char)} (h : c ∈ commaSep ts) :
    c = ',' ∨ ∃ t ∈ ts, c ∈ t := by
  fun_induction commaSep ts with
  | case1 => simp at h
  | case2 t => exact .inr ⟨t, List.mem_cons_self, h⟩
  | case3 t ts _ ih =>
    rcases List.mem_append.1 h with ht | hrest
    · exact .inr ⟨t, List.mem_cons_self, ht⟩
    rcases List.mem_cons.1 hrest with rfl | hrest
    · exact .inl rfl
    · exact (ih hrest).imp_right fun ⟨t', ht', hc⟩ => ⟨t', List.mem_cons_of_mem t ht', hc⟩

/-- Texts with a comma between them are on one line if each of them is. -/
theorem newline_not_mem_commaSep {ts : List (List Char)} (h : ∀ t ∈ ts, '\n' ∉ t) :
    '\n' ∉ commaSep ts := by
  intro hmem
  rcases mem_commaSep hmem with hcomma | ⟨t, ht, hc⟩
  · exact absurd hcomma (by decide)
  · exact h t ht hc

/-- **The compact form is on one line**, whatever its strings say. -/
theorem Value.newline_not_mem_compactChars {v : Value} (h : v.IsWhole) :
    '\n' ∉ v.compactChars := by
  induction v using Value.induction with
  | null => decide
  | bool b => cases b <;> decide
  | number n =>
    have hn : n.IsWhole := h n List.mem_cons_self
    cases n with
    | int n =>
      cases n with
      | ofNat n => exact newline_not_mem_decimalChars n
      | negSucc n =>
        have hdigits := newline_not_mem_decimalChars (n + 1)
        simpa [compactChars, Number.chars, intChars] using hdigits
    | double x => exact absurd hn id
  | string s => exact newline_not_mem_stringChars s
  | array items ih =>
    rw [isWhole_array] at h
    have hitems : '\n' ∉ commaSep (items.map compactChars) := by
      refine newline_not_mem_commaSep (List.forall_mem_map.2 fun v hv => ?_)
      exact ih v hv (h v hv)
    simpa [compactChars, compactItems_eq_map] using hitems
  | object members ih =>
    rw [isWhole_object] at h
    have hmembers : '\n' ∉ commaSep (members.map fun m =>
        stringChars m.1 ++ ':' :: m.2.compactChars) := by
      refine newline_not_mem_commaSep (List.forall_mem_map.2 fun m hm => ?_)
      simp [newline_not_mem_stringChars, ih m hm (h m hm)]
    simpa [compactChars, compactMembers_eq_map] using hmembers

end Json

/-! ### The configuration in a script -/

namespace WordBreaking

/-- A word-breaking part that was read, on its own or in the description of a model. -/
def IsRead (w : WordBreaking) : Prop :=
  (∃ text, Json.decodeText decoder text = .ok w) ∨
    ∃ text m, Json.decodeText ModelSource.decoder text = .ok m ∧ m.wordBreaking = some w

theorem IsRead.carried {w : WordBreaking} (h : w.IsRead) :
    Carried keys (Json.maxDepth - 1) w.config := by
  rcases h with ⟨text, hread⟩ | ⟨text, m, hread, hw⟩
  · obtain ⟨ns, -, hkept⟩ := kept_of_decoder (Json.ok_of_decode hread)
    exact hkept.carried
  · -- in the description it is one level deeper
    obtain ⟨n, -, hn⟩ := ModelSource.wordBreaking_of_decoder (Json.ok_of_decode hread) hw
    obtain ⟨ns, -, hkept⟩ := kept_of_decoder hn
    exact hkept.carried.mono (by decide)

/-- The text is a literal for the description: read back it is the description, and the object in it
has no sources. -/
structure IsLiteral (literal : String) (w : WordBreaking) : Prop where
  /-- It can be read back. -/
  read : Json.decodeText decoder literal = .ok w
  /-- It does not end the line that it stands in. -/
  line : '\n' ∉ literal.toList
  /-- It has no sources. -/
  unlisted : ∃ ns, Document.parse literal = ⟨.object ns none, none⟩ ∧ ∀ n, (some "sources", n) ∉ ns

theorem sources_not_mem_memberNodes {w : WordBreaking} (hsources : w.sources = none)
    (hunknown : ∀ m ∈ w.config, m.1 ∉ keys) (n : Node) :
    (some "sources", n) ∉ Value.memberNodes (w.fields ++ w.config) := by
  rw [Value.memberNodes_eq_map, List.mem_map]
  rintro ⟨m, hm, hkey⟩
  obtain ⟨hkey, -⟩ := Prod.mk.inj hkey
  have hsame : m.1 = "sources" := Option.some.inj hkey
  rw [fields, hsources] at hm
  rcases List.mem_append.1 hm with hm | hm
  · exact absurd (hsame.symm.trans (fst_of_mem_optionalMember hm)) (by decide)
  · exact hunknown m hm (hsame ▸ by decide)

/-- **The configuration in a script.** -/
theorem literal_reads_back {w : WordBreaking} (hread : w.IsRead)
    (hwhole : ∀ m ∈ w.config, m.2.IsWhole) :
    IsLiteral w.withoutSources.toJson.compact w.withoutSources := by
  have hreads : ReadsAs decoder Json.maxDepth w.withoutSources.toJson w.withoutSources :=
    readsAs_toJson (by decide) hread.carried hwhole
  refine ⟨hreads.roundTrips.text .compact, ?_, _, Form.compact.parse_write hreads.whole, ?_⟩
  · rw [Value.compact, String.toList_ofList]
    exact Value.newline_not_mem_compactChars hreads.whole
  · exact sources_not_mem_memberNodes rfl hread.carried.unknown

end WordBreaking

/-! ### Adding a word breaker -/

variable {σ : Type} [FileSystem σ]

/-- What becomes of the description and of the script in `e` when its word breaker is added to
it. -/
structure IsEmitted (l : Layout) (t : Transpiler σ) (e : Emission σ) (result : Result Unit)
    (e' : Emission σ) : Prop where
  /-- The sources are gone, also after a failure. -/
  sources : e'.wordBreaking.sources = none
  /-- The class stays. -/
  rootClass : e'.wordBreaking.rootClass = e.wordBreaking.rootClass
  /-- So does the configuration. -/
  config : e'.wordBreaking.config = e.wordBreaking.config
  /-- A failure leaves the script as it was. -/
  failed : ∀ f, result = .error f → e'.script = e.script
  /-- Sources that were listed come in order, and then one line that loads the class. -/
  custom : ∀ references, e.wordBreaking.sources = some references → result = .ok () →
    ∃ rootClass texts, e.wordBreaking.rootClass = some rootClass ∧
      Compiles e.files l t references texts e'.files ∧
      e'.script.body = e.script.body ++ ((Block.sources texts).text ++
        ("LMLayerWorker.loadWordBreaker(new " ++ rootClass ++ "());" ++ "\n"))
  /-- Without such sources it is one line, with a literal for what is left of the description. -/
  default : e.wordBreaking.sources = none → result = .ok () ∧
    ∃ literal, WordBreaking.IsLiteral literal e'.wordBreaking ∧
      e'.script.body = e.script.body ++
        ("LMLayerWorker.loadWordBreaker(new wordBreakers.DefaultWordBreaker(" ++ literal ++ "));" ++
          "\n")

section Steps

variable {l : Layout} {t : Transpiler σ} {e e' : Emission σ}

theorem emitWordBreaker_wordBreaking (l : Layout) (t : Transpiler σ) (e : Emission σ) :
    (emitWordBreaker l t e).2.wordBreaking = e.wordBreaking.withoutSources := by
  unfold emitWordBreaker
  split
  · -- no step after the first touches the description
    refine andThen_invariant (P := (Emission.wordBreaking · = e.wordBreaking.withoutSources)) rfl
      fun rootClass e₁ h₁ => ?_
    refine andThen_invariant (P := (Emission.wordBreaking · = e.wordBreaking.withoutSources)) h₁
      fun files e₂ h₂ => ?_
    exact andThen_invariant (P := (Emission.wordBreaking · = e.wordBreaking.withoutSources)) h₂
      fun code e₃ h₃ => h₃
  · rfl

theorem emitWordBreaker_script_of_error {f : Failure} (h : (emitWordBreaker l t e).1 = .error f) :
    (emitWordBreaker l t e).2.script = e.script := by
  unfold emitWordBreaker at h ⊢
  split at h
  · -- the first block is added only after the last step that can fail
    refine andThen_error_invariant (P := (Emission.script · = e.script)) h rfl
      fun rootClass e₁ h₁ h => ?_
    refine andThen_error_invariant (P := (Emission.script · = e.script)) h h₁
      fun files e₂ h₂ h => ?_
    exact andThen_error_invariant (P := (Emission.script · = e.script)) h h₂
      fun code e₃ h₃ h => nomatch h
  · cases h

theorem emitWordBreaker_custom {references : List String}
    (hsources : e.wordBreaking.sources = some references)
    (h : emitWordBreaker l t e = (.ok (), e')) :
    ∃ rootClass texts, e.wordBreaking.rootClass = some rootClass ∧
      Compiles e.files l t references texts e'.files ∧
      e'.script.body = e.script.body ++ ((Block.sources texts).text ++
        ("LMLayerWorker.loadWordBreaker(new " ++ rootClass ++ "());" ++ "\n")) := by
  obtain ⟨blocks, s', hcode, rfl⟩ := emitWordBreaker_eq_ok_iff.1 h
  have hbody := Script.body_addAll hcode.isStatement e.script
  cases hcode with
  | default hdefault => cases hsources.symm.trans hdefault
  | custom hcustom hclass htexts =>
    cases hsources.symm.trans hcustom
    refine ⟨_, _, hclass, htexts, hbody.trans ?_⟩
    simp [Block.text]

theorem emitWordBreaker_default (hsources : e.wordBreaking.sources = none) :
    ∃ e', emitWordBreaker l t e = (.ok (), e') ∧
      e'.script.body = e.script.body ++
        ("LMLayerWorker.loadWordBreaker(new wordBreakers.DefaultWordBreaker(" ++
          e.wordBreaking.withoutSources.toJson.compact ++ "));" ++ "\n") := by
  have hcode : BreakerCode e.files l t (some e.wordBreaking) _ e.files := .default hsources
  refine ⟨_, emitWordBreaker_eq_ok_iff.2 ⟨_, _, hcode, rfl⟩, ?_⟩
  rw [Script.body_addAll hcode.isStatement]
  simp [Block.text]

end Steps

/-- **Sources of a word breaker stay behind**, and a word breaker that cannot be added leaves the
script as it was.  So a compiled model has the word-breaking part of its author without the
sources. -/
theorem sources_stay_behind :
    (∀ (l : Layout) (t : Transpiler σ) (e : Emission σ), e.wordBreaking.IsRead →
      (∀ m ∈ e.wordBreaking.config, m.2.IsWhole) →
      IsEmitted l t e (emitWordBreaker l t e).1 (emitWordBreaker l t e).2) ∧
    ∀ (s : σ) (l : Layout) (id : Identifier) (m : ModelSource) (tools : Tools σ)
      (g : GeneratedModel), (generate s l id m tools).1 = .ok g →
      g.model.wordBreaking = m.wordBreaking.map WordBreaking.withoutSources := by
  constructor
  · intro l t e hread hwhole
    have hleft := emitWordBreaker_wordBreaking l t e
    refine ⟨?_, ?_, ?_, fun f => emitWordBreaker_script_of_error, fun references hsources hok => ?_,
      fun hsources => ?_⟩
    · rw [hleft]
      rfl
    · rw [hleft]
      rfl
    · rw [hleft]
      rfl
    · exact emitWordBreaker_custom hsources (Prod.ext hok rfl)
    · obtain ⟨e', hemit, hbody⟩ := emitWordBreaker_default (l := l) (t := t) hsources
      rw [hleft, hemit]
      exact ⟨rfl, _, WordBreaking.literal_reads_back hread hwhole, hbody⟩
  · intro s l id m tools g h
    obtain ⟨model, s₁, breaker, -, -, hgenerated⟩ := generate_eq_ok_iff.1 (Prod.ext h rfl)
    exact hgenerated.wordBreaking

/-- A word-breaking part whose configuration has sources of its own, with members in front. -/
def nestedText (front : String) : String :=
  "\x7b" ++ front ++ "\"rootClass\":\"B\",\"use\":\x7b\"sources\":[\"\\n\",-7]\x7d\x7d"

theorem read_nestedText (front : String) (sources : Option (List String))
    (h : (Json.decodeText WordBreaking.decoder (nestedText front)).toOption.map (fun w =>
      (w.sources, (Value.object w.config).numbers)) = some (sources, [.int (-7)])) :
    ∃ w, Json.decodeText WordBreaking.decoder (nestedText front) = .ok w ∧ w.sources = sources ∧
      ∀ m ∈ w.config, m.2.IsWhole := by
  obtain ⟨w, hw, hfacts⟩ := Option.map_eq_some_iff.1 h
  obtain ⟨hsources, hnumbers⟩ := Prod.mk.inj hfacts
  have hwhole : (Value.object w.config).IsWhole := by
    rw [Value.IsWhole, hnumbers]
    decide
  exact ⟨w, eq_ok_of_toOption hw, hsources, Json.Value.isWhole_object.1 hwhole⟩

/-- Sources in the configuration are kept; those of the word breaker are gone, also where they
cannot be read. -/
theorem nested_sources_stay_behind :
    (∃ w, Json.decodeText WordBreaking.decoder (nestedText "") = .ok w ∧
      ∃ literal, WordBreaking.IsLiteral literal w ∧
        (emitWordBreaker raggedLayout .passThrough ⟨w, {}, raggedStore⟩).2.script.body =
          "LMLayerWorker.loadWordBreaker(new wordBreakers.DefaultWordBreaker(" ++ literal ++
            "));" ++ "\n") ∧
    (∃ w, Json.decodeText WordBreaking.decoder (nestedText "\"sources\":[\"gone.js\"],") = .ok w ∧
      w.sources = some ["gone.js"] ∧
      ∀ script, ∃ e', (emitWordBreaker raggedLayout .passThrough ⟨w, script, raggedStore⟩).2 = e' ∧
        e'.script = script ∧ e'.wordBreaking.sources = none) ∧
    ∃ g, (generate raggedStore raggedLayout raggedId (raggedModel (some "B")) raggedTools).1 =
        .ok g ∧ g.model.wordBreaking.map WordBreaking.sources = some none := by
  refine ⟨?_, ?_, ?_⟩
  · obtain ⟨w, hread, hsources, hwhole⟩ := read_nestedText "" none (by decide +kernel)
    have hemitted := sources_stay_behind.1 raggedLayout .passThrough ⟨w, {}, raggedStore⟩
      (.inl ⟨_, hread⟩) hwhole
    obtain ⟨-, literal, hliteral, hbody⟩ := hemitted.default hsources
    have hleft : w.withoutSources = w := by
      rw [WordBreaking.withoutSources, ← hsources]
    rw [emitWordBreaker_wordBreaking, hleft] at hliteral
    exact ⟨w, hread, literal, hliteral, hbody.trans (String.empty_append)⟩
  · obtain ⟨w, hread, hsources, hwhole⟩ := read_nestedText "\"sources\":[\"gone.js\"],"
      (some ["gone.js"]) (by decide +kernel)
    refine ⟨w, hread, hsources, fun script => ⟨_, rfl, ?_⟩⟩
    have hemitted := sources_stay_behind.1 raggedLayout .passThrough ⟨w, script, raggedStore⟩
      (.inl ⟨_, hread⟩) hwhole
    refine ⟨?_, hemitted.sources⟩
    cases hresult : (emitWordBreaker raggedLayout .passThrough ⟨w, script, raggedStore⟩).1 with
    | error f => exact hemitted.failed f hresult
    | ok _ =>
      obtain ⟨_, _, -, ⟨_, hfiles, -⟩, -⟩ := hemitted.custom _ hsources hresult
      obtain ⟨source, _, hsource, -, -⟩ := List.forall₂_cons_left_iff.1 hfiles
      have hgone : (FileSystem.readText raggedStore
          (raggedLayout.sourceFile "gone.js")).toOption = none := by
        decide +kernel
      rw [hsource.text] at hgone
      cases hgone
  · obtain ⟨g, hg⟩ := exists_generate_iff.2
      ⟨_, _, _, _, modelCode_raggedStore (some "B"), breakerCode_raggedStore "B"⟩
    refine ⟨g, hg, ?_⟩
    rw [sources_stay_behind.2 _ _ _ _ _ g hg]
    rfl

end LexicalModel
