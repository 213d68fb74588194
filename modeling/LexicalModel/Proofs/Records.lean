import LexicalModel.Config
import LexicalModel.Proofs.Descriptor
import LexicalModel.Proofs.Info
import LexicalModel.Proofs.Source

/-!
# Reading undoes writing

Every record of the library is read back from what is written of it, pretty or compact.  For the
descriptor of a package this holds without condition.  The others have a number or members of
unknown keys in them, and what has been read of these can be written and read again.

* `Config.readsAs_toJson`, `Config.schemaVersion_le` : the settings
* `KeepsUnknown` : members of unknown keys, from where they are read to where they are written
* `records_read_back` : reading undoes writing, for all records
-/

namespace LexicalModel

open Json (Value Node ReadError Decoder Document Reads ReadsAs Kept RoundTrips readsAs_text
  enter_of_le join_map_some)

/-! ### Settings -/

namespace Config

/-- The largest version number that can be read. -/
def maxVersion : Nat := Nat.pow 2 32 - 1

theorem readsAs_toJson {depth : Nat} (h : 2 ≤ depth) {c : Config}
    (hc : c.schemaVersion ≤ maxVersion) : ReadsAs decoder depth c.toJson c := by
  have hversion : ReadsAs version (depth - 1) (.nat c.schemaVersion) c.schemaVersion :=
    Json.readsAs_unsigned _ _ (by decide) hc
  refine Reads.tuple (?_ : Reads (Draft.step (depth - 1)) {} _
    { schemaVersion := some c.schemaVersion, minKeymanVersion := some c.minKeymanVersion,
      defaultLicense := some c.defaultLicense, transpiler := c.transpiler.map some,
      sourcePathPrefix := c.sourcePathPrefix.map some }) (enter_of_le h) fun ns hns => ?_
  · simp only [List.cons_append, List.nil_append]
    refine Reads.cons (Reads.field (fun d x => { d with schemaVersion := x }) (fun _ => rfl)
      hversion) ?_
    refine Reads.cons (Reads.field (fun d x => { d with minKeymanVersion := x }) (fun _ => rfl)
      (readsAs_text _ _)) ?_
    refine Reads.cons (Reads.field (fun d x => { d with defaultLicense := x }) (fun _ => rfl)
      (readsAs_text _ _)) ?_
    refine Reads.append (Reads.optional (fun d x => { d with transpiler := x }) rfl (fun _ => rfl)
      fun a _ => readsAs_text _ a) ?_
    exact Reads.optional (fun (d : Draft) x => { d with sourcePathPrefix := x }) rfl (fun _ => rfl)
      fun a _ => readsAs_text _ a
  · rw [ofMembers, hns, ok_bind]
    simp only [join_map_some]
    rfl

theorem schemaVersion_le_of_members {depth : Nat} {ns : List (Option String × Node)} {d : Draft}
    (h : Decoder.members (Draft.step depth) {} ns = .ok d) {v : Nat}
    (hv : d.schemaVersion = some v) : v ≤ maxVersion := by
  refine Decoder.members_invariant (P := fun d : Draft => ∀ v, d.schemaVersion = some v →
    v ≤ maxVersion) (fun d key n d' _ hstep hd => ?_) h (fun v hv => nomatch hv) v hv
  by_cases hkey : key = "schema_version"
  · subst hkey
    obtain ⟨x, hx, hstep⟩ := ok_of_bind hstep
    cases hstep
    obtain ⟨y, hy, rfl⟩ := Json.once_ok hx
    rintro v ⟨⟩
    exact Json.le_of_unsigned hy
  · -- no other setting changes the version, and no other member is accepted
    rw [Draft.step, if_neg hkey] at hstep
    split_ifs at hstep
    all_goals
      obtain ⟨x, -, hstep⟩ := ok_of_bind hstep
      cases hstep
      exact hd

theorem schemaVersion_le {depth : Nat} {n : Node} {c : Config} (h : decoder depth n = .ok c) :
    c.schemaVersion ≤ maxVersion := by
  have hdefault : default.schemaVersion ≤ maxVersion := by decide
  rcases Json.tuple_ok h with ⟨ns, broken, rfl, hread⟩ | ⟨items, broken, rfl, hread⟩
  · obtain ⟨d, hd, hread⟩ := ok_of_bind hread
    obtain ⟨_, -, hread⟩ := ok_of_bind hread
    cases hread
    cases hversion : d.schemaVersion with
    | none => exact hdefault
    | some v => exact schemaVersion_le_of_members hd hversion
  · obtain ⟨⟨v, rest⟩, hv, hread⟩ := ok_of_bind hread
    obtain ⟨⟨_, _⟩, -, hread⟩ := ok_of_bind hread
    obtain ⟨⟨_, _⟩, -, hread⟩ := ok_of_bind hread
    obtain ⟨⟨_, _⟩, -, hread⟩ := ok_of_bind hread
    obtain ⟨⟨_, _⟩, -, hread⟩ := ok_of_bind hread
    obtain ⟨_, -, hread⟩ := ok_of_bind hread
    cases hread
    rcases Json.nextItem_ok hv with ⟨n, -, hn⟩ | ⟨-, -, hmissing⟩
    · exact Json.le_of_unsigned hn
    · cases hmissing
      exact hdefault

end Config

/-! ### Members of unknown keys -/

/-- From the object `n` a record was read that carries `ms` along beside fields of the given keys,
and it is written as `written`: its fields first, and then what it carries along. -/
def KeepsUnknown (keys : List String) (depth : Nat) (n : Node) (ms : List (String × Value))
    (written : Value) : Prop :=
  ∃ ns fields, n = .object ns none ∧ Kept keys depth ns ms ∧ written = .object (fields ++ ms) ∧
    ∀ f ∈ fields, f.1 ∈ keys

theorem ModelInfo.fst_mem_keys (m : ModelInfo) : ∀ f ∈ m.members, f.1 ∈ keys := by
  unfold members
  repeat refine List.forall_mem_append.2 ⟨?_, ?_⟩
  all_goals
    intro f hf
    rw [fst_of_mem_optionalMember hf]
    decide

theorem ModelInfo.keepsUnknown {depth : Nat} {n : Node} {m : ModelInfo}
    (h : decoder depth n = .ok m) : KeepsUnknown keys (depth - 1) n m.extra m.toJson := by
  obtain ⟨ns, hn, hkept⟩ := kept_of_decoder h
  exact ⟨ns, m.members, hn, hkept, rfl, m.fst_mem_keys⟩

theorem WordBreaking.fst_mem_keys (w : WordBreaking) : ∀ f ∈ w.fields, f.1 ∈ keys := by
  refine List.forall_mem_append.2 ⟨?_, ?_⟩
  all_goals
    intro f hf
    rw [fst_of_mem_optionalMember hf]
    decide

theorem WordBreaking.keepsUnknown {depth : Nat} {n : Node} {w : WordBreaking}
    (h : decoder depth n = .ok w) : KeepsUnknown keys (depth - 1) n w.config w.toJson := by
  obtain ⟨ns, hn, hkept⟩ := kept_of_decoder h
  exact ⟨ns, w.fields, hn, hkept, rfl, w.fst_mem_keys⟩

/-! ### All records -/

/-- **Reading undoes writing.**  A model info, a description of a model or settings that were read,
and any descriptor of a package, are read back from both of their written forms.  Of the members of
unknown keys in a model info or a word-breaking part, the last of each key is kept and written, in
the order of their keys, and none takes the place of a field.  The numbers in them are supposed to
be whole. -/
theorem records_read_back :
    (∀ (text : String) (m : ModelInfo), Json.decodeText ModelInfo.decoder text = .ok m →
      KeepsUnknown ModelInfo.keys (Json.maxDepth - 1) (Document.parse text).root m.extra m.toJson ∧
      ((∀ e ∈ m.extra, e.2.IsWhole) → RoundTrips ModelInfo.decoder ModelInfo.toJson m)) ∧
    (∀ (text : String) (m : ModelSource), Json.decodeText ModelSource.decoder text = .ok m →
      (∀ w, m.wordBreaking = some w →
        ∃ n, ModelSource.IsField "wordBreaking" 3 (Document.parse text).root n ∧
          KeepsUnknown WordBreaking.keys (Json.maxDepth - 2) n w.config w.toJson) ∧
      ((∀ w, m.wordBreaking = some w → ∀ e ∈ w.config, e.2.IsWhole) →
        RoundTrips ModelSource.decoder ModelSource.toJson m)) ∧
    (∀ (bytes : ByteArray) (c : Config), Json.decodeBytes Config.decoder bytes = .ok c →
      RoundTrips Config.decoder Config.toJson c) ∧
    ∀ d : PackageDescriptor, RoundTrips PackageDescriptor.decoder PackageDescriptor.toJson d := by
  refine ⟨fun text m h => ?_, fun text m h => ?_, fun bytes c h => ?_, fun d => ?_⟩
  · have hread := Json.ok_of_decode h
    refine ⟨ModelInfo.keepsUnknown hread, fun hwhole => ?_⟩
    exact (ModelInfo.readsAs_toJson (ModelInfo.isReadable_of_decoder hread) hwhole).roundTrips
  · have hread := Json.ok_of_decode h
    constructor
    · intro w hw
      obtain ⟨n, hfield, hn⟩ := ModelSource.wordBreaking_of_decoder hread hw
      exact ⟨n, hfield, WordBreaking.keepsUnknown hn⟩
    · intro hwhole
      refine (ModelSource.readsAs_toJson (by decide) fun w hw => ?_).roundTrips
      obtain ⟨n, -, hn⟩ := ModelSource.wordBreaking_of_decoder hread hw
      obtain ⟨ns, -, hkept⟩ := WordBreaking.kept_of_decoder hn
      exact WordBreaking.readsAs_toJson (by decide) hkept.carried (hwhole w hw)
  · obtain ⟨n, hn⟩ := Json.ok_of_decodeBytes h
    exact (Config.readsAs_toJson (by decide) (Config.schemaVersion_le hn)).roundTrips
  · exact (PackageDescriptor.readsAs_toJson (by decide) d).roundTrips

/-- A model info with members of unknown keys, one of them twice. -/
def infoText : String :=
  "\x7b\"zeta\":1,\"name\":\"\\\"\\u0001\\\\é\",\"alpha\":[true,null],\"languages\":[]," ++
  "\"zeta\":\x7b\"b\":-2,\"a\":\"\"\x7d,\"license\":null\x7d"

/-- A description with configuration for its word breaker, as an array. -/
def sourceText : String :=
  "[\"custom-1.0\",[],null,\x7b\"use\":\"x\",\"rootClass\":\"B\",\"use\":7\x7d]"

/-- Settings with a path in front. -/
def settingsText : String := "\x7b\"source_path_prefix\":\"\",\"schema_version\":4294967295\x7d"

theorem samples_read_back :
    (∃ m, Json.decodeText ModelInfo.decoder infoText = .ok m ∧
      m.extra.map Prod.fst = ["alpha", "zeta"] ∧
      RoundTrips ModelInfo.decoder ModelInfo.toJson m) ∧
    (∃ m, Json.decodeText ModelSource.decoder sourceText = .ok m ∧
      m.wordBreaking.map (fun w => w.config.map Prod.fst) = some ["use"] ∧
      RoundTrips ModelSource.decoder ModelSource.toJson m) ∧
    ∃ c, Json.decodeBytes Config.decoder (Text.Utf8.encode settingsText) = .ok c ∧
      c.sourcePathPrefix = some "" ∧ RoundTrips Config.decoder Config.toJson c := by
  refine ⟨?_, ?_, ?_⟩
  · have hread : (Json.decodeText ModelInfo.decoder infoText).toOption.map (fun m =>
        (m.extra.map Prod.fst, (Value.object m.extra).numbers)) =
        some (["alpha", "zeta"], [.int (-2)]) := by
      decide +kernel
    obtain ⟨m, hm, hfacts⟩ := Option.map_eq_some_iff.1 hread
    obtain ⟨hkeys, hnumbers⟩ := Prod.mk.inj hfacts
    have hok := eq_ok_of_toOption hm
    have hwhole : (Value.object m.extra).IsWhole := by
      rw [Json.Value.IsWhole, hnumbers]
      decide
    exact ⟨m, hok, hkeys, (records_read_back.1 _ m hok).2 (Json.Value.isWhole_object.1 hwhole)⟩
  · have hread : (Json.decodeText ModelSource.decoder sourceText).toOption.map (fun m =>
        m.wordBreaking.map fun w => (w.config.map Prod.fst, (Value.object w.config).numbers)) =
        some (some (["use"], [.int 7])) := by
      decide +kernel
    obtain ⟨m, hm, hfacts⟩ := Option.map_eq_some_iff.1 hread
    obtain ⟨w, hw, hfacts⟩ := Option.map_eq_some_iff.1 hfacts
    obtain ⟨hkeys, hnumbers⟩ := Prod.mk.inj hfacts
    have hok := eq_ok_of_toOption hm
    have hwhole : (Value.object w.config).IsWhole := by
      rw [Json.Value.IsWhole, hnumbers]
      decide
    refine ⟨m, hok, by rw [hw, ← hkeys]; rfl, (records_read_back.2.1 _ m hok).2 fun w' hw' => ?_⟩
    cases hw.symm.trans hw'
    exact Json.Value.isWhole_object.1 hwhole
  · have hread : (Json.decodeBytes Config.decoder (Text.Utf8.encode settingsText)).toOption.map
        Config.sourcePathPrefix = some (some "") := by
      decide +kernel
    obtain ⟨c, hc, hpath⟩ := Option.map_eq_some_iff.1 hread
    have hok := eq_ok_of_toOption hc
    exact ⟨c, hok, hpath, records_read_back.2.2.1 _ c hok⟩

end LexicalModel
