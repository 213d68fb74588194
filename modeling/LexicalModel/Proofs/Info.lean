import LexicalModel.Info
import LexicalModel.Proofs.Json.Record

/-!
# Model info is read back as it was published

The fields are read one after the other, each into its own place; what is carried along follows them
and is put where it was, since it is sorted and has none of their keys.

* `ModelInfo.IsReadable` : the records that can be read again
* `ModelInfo.decodeText_render` : they are read back from what is published
* `ModelInfo.kept_of_decoder` : what is carried along in a record that was read
* `ModelInfo.isReadable_of_decoder` : a record that was read can be read again
-/

namespace LexicalModel

open Json (Value Node ReadError Decoder Carried Carries Reads ReadsAs readsAs_text readsAs_texts)

namespace ModelInfo

/-- The keys of the fields. -/
def keys : List String :=
  ["id", "name", "license", "version", "languages", "authorName", "authorEmail", "description",
    "lastModifiedDate", "packageFilename", "packageFileSize", "jsFilename", "jsFileSize",
    "packageIncludes", "minKeymanVersion", "sourcePath"]

/-- The draft with other members carried along. -/
def Draft.carry (d : Draft) (ms : List (String × Value)) : Draft := { d with extra := ms }

theorem step_of_not_mem_keys {key : String} (h : key ∉ keys) (depth : Nat) (d : Draft) (n : Node) :
    Draft.step depth d key n = do
      let v ← Decoder.value depth n
      return d.carry (Json.insertMember key v d.extra) := by
  simp only [keys, List.mem_cons, List.not_mem_nil, or_false, not_or] at h
  simp only [Draft.step, h, if_false]
  rfl

theorem extra_of_mem_keys {key : String} (h : key ∈ keys) {depth : Nat} {d d' : Draft} {n : Node}
    (hstep : Draft.step depth d key n = .ok d') : d'.extra = d.extra := by
  simp only [keys, List.mem_cons, List.not_mem_nil, or_false] at h
  rcases h with rfl | rfl | rfl | rfl | rfl | rfl | rfl | rfl | rfl | rfl | rfl | rfl | rfl | rfl |
    rfl | rfl
  all_goals
    obtain ⟨x, -, hx⟩ := ok_of_bind hstep
    cases hx
    rfl

/-- What is carried along. -/
theorem carries (depth : Nat) :
    Carries keys depth (Draft.step depth) Draft.extra Draft.carry where
  known h hstep := extra_of_mem_keys h hstep
  unknown h := step_of_not_mem_keys h depth _ _
  carried_carry _ _ := rfl
  carry_carry _ _ _ := rfl
  carry_carried _ := rfl

/-! ### Reading the fields -/

/-- What has been read of a record once all its fields have been. -/
def Draft.ofFields (m : ModelInfo) : Draft where
  id := m.id.map some
  name := m.name.map some
  license := m.license.map some
  version := m.version.map some
  languages := m.languages.map some
  authorName := m.authorName.map some
  authorEmail := m.authorEmail.map some
  description := m.description.map some
  lastModifiedDate := m.lastModifiedDate.map some
  packageFilename := m.packageFilename.map some
  packageFileSize := m.packageFileSize.map some
  jsFilename := m.jsFilename.map some
  jsFileSize := m.jsFileSize.map some
  packageIncludes := m.packageIncludes.map some
  minKeymanVersion := m.minKeymanVersion.map some
  sourcePath := m.sourcePath.map some

theorem readsAs_size (depth : Nat) {n : Nat} (h : n ≤ Json.maxUnsigned) :
    ReadsAs size depth (.nat n) n :=
  Json.readsAs_unsigned depth "u64" (Nat.le_refl _) h

theorem reads_members {depth inner : Nat} (henter : Json.enter depth = .ok inner) {m : ModelInfo}
    (hpackage : ∀ n, m.packageFileSize = some n → n ≤ Json.maxUnsigned)
    (hscript : ∀ n, m.jsFileSize = some n → n ≤ Json.maxUnsigned) :
    Reads (Draft.step depth) {} m.members (Draft.ofFields m) := by
  simp only [members, List.append_assoc]
  refine Reads.append
    (Reads.optional (fun d x => { d with id := x }) rfl (fun _ => rfl)
      fun a _ => readsAs_text depth a) ?_
  refine Reads.append
    (Reads.optional (fun d x => { d with name := x }) rfl (fun _ => rfl)
      fun a _ => readsAs_text depth a) ?_
  refine Reads.append
    (Reads.optional (fun d x => { d with license := x }) rfl (fun _ => rfl)
      fun a _ => readsAs_text depth a) ?_
  refine Reads.append
    (Reads.optional (fun d x => { d with version := x }) rfl (fun _ => rfl)
      fun a _ => readsAs_text depth a) ?_
  refine Reads.append
    (Reads.optional (fun d x => { d with languages := x }) rfl (fun _ => rfl)
      fun as _ => readsAs_texts henter as) ?_
  refine Reads.append
    (Reads.optional (fun d x => { d with authorName := x }) rfl (fun _ => rfl)
      fun a _ => readsAs_text depth a) ?_
  refine Reads.append
    (Reads.optional (fun d x => { d with authorEmail := x }) rfl (fun _ => rfl)
      fun a _ => readsAs_text depth a) ?_
  refine Reads.append
    (Reads.optional (fun d x => { d with description := x }) rfl (fun _ => rfl)
      fun a _ => readsAs_text depth a) ?_
  refine Reads.append
    (Reads.optional (fun d x => { d with lastModifiedDate := x }) rfl (fun _ => rfl)
      fun a _ => readsAs_text depth a) ?_
  refine Reads.append
    (Reads.optional (fun d x => { d with packageFilename := x }) rfl (fun _ => rfl)
      fun a _ => readsAs_text depth a) ?_
  refine Reads.append
    (Reads.optional (fun d x => { d with packageFileSize := x }) rfl (fun _ => rfl)
      fun n hn => readsAs_size depth (hpackage n hn)) ?_
  refine Reads.append
    (Reads.optional (fun d x => { d with jsFilename := x }) rfl (fun _ => rfl)
      fun a _ => readsAs_text depth a) ?_
  refine Reads.append
    (Reads.optional (fun d x => { d with jsFileSize := x }) rfl (fun _ => rfl)
      fun n hn => readsAs_size depth (hscript n hn)) ?_
  refine Reads.append
    (Reads.optional (fun d x => { d with packageIncludes := x }) rfl (fun _ => rfl)
      fun as _ => readsAs_texts henter as) ?_
  refine Reads.append
    (Reads.optional (fun d x => { d with minKeymanVersion := x }) rfl (fun _ => rfl)
      fun a _ => readsAs_text depth a) ?_
  exact Reads.optional (fun (d : Draft) x => { d with sourcePath := x }) rfl (fun _ => rfl)
    fun a _ => readsAs_text depth a

/-- What can be published and read again: the sizes fit into 64 bits, and what is carried along
could have been read. -/
structure IsReadable (m : ModelInfo) : Prop where
  /-- The size of the package. -/
  packageFileSize : ∀ n, m.packageFileSize = some n → n ≤ Json.maxUnsigned
  /-- The size of the script. -/
  jsFileSize : ∀ n, m.jsFileSize = some n → n ≤ Json.maxUnsigned
  /-- The members that the library does not know. -/
  extra : Carried keys (Json.maxDepth - 1) m.extra

theorem finish_ofFields (m : ModelInfo) : ((Draft.ofFields m).carry m.extra).finish = m := by
  simp only [Draft.finish, Draft.ofFields, Draft.carry, Json.join_map_some]

theorem readsAs_toJson {m : ModelInfo} (h : m.IsReadable) (hwhole : ∀ e ∈ m.extra, e.2.IsWhole) :
    ReadsAs decoder Json.maxDepth m.toJson m := by
  have hfields : Reads (Draft.step (Json.maxDepth - 1)) {} m.members (Draft.ofFields m) :=
    reads_members rfl h.packageFileSize h.jsFileSize
  have hextra := (carries (Json.maxDepth - 1)).reads (d := Draft.ofFields m) rfl h.extra hwhole
  refine (hfields.append hextra).record rfl fun ns hns => ?_
  rw [hns, ok_bind]
  exact congrArg Except.ok (finish_ofFields m)

/-- **A model info is read back from what is published of it.** -/
theorem decodeText_render {m : ModelInfo} (h : m.IsReadable)
    (hwhole : ∀ e ∈ m.extra, e.2.IsWhole) : Json.decodeText decoder m.render = .ok m :=
  (readsAs_toJson h hwhole).roundTrips.text .pretty

/-! ### What is read -/

theorem kept_of_decoder {depth : Nat} {n : Node} {m : ModelInfo} (h : decoder depth n = .ok m) :
    ∃ ns, n = .object ns none ∧ Json.Kept keys (depth - 1) ns m.extra := by
  obtain ⟨ns, broken, rfl, hread⟩ := Json.record_ok h
  obtain ⟨d, hd, hread⟩ := ok_of_bind hread
  obtain ⟨_, hend, hread⟩ := ok_of_bind hread
  cases hread
  cases Json.eq_none_of_endUsed hend
  exact ⟨ns, rfl, (carries (depth - 1)).kept_members rfl hd⟩

/-- The sizes in a draft fit into 64 bits. -/
def Draft.Fits (d : Draft) : Prop :=
  ∀ n, d.packageFileSize = some (some n) ∨ d.jsFileSize = some (some n) → n ≤ Json.maxUnsigned

theorem fits_step {depth : Nat} {d d' : Draft} {key : String} {n : Node}
    (h : Draft.step depth d key n = .ok d') (hd : d.Fits) : d'.Fits := by
  by_cases hkey : key ∈ keys
  · simp only [keys, List.mem_cons, List.not_mem_nil, or_false] at hkey
    rcases hkey with rfl | rfl | rfl | rfl | rfl | rfl | rfl | rfl | rfl | rfl | rfl | rfl | rfl |
      rfl | rfl | rfl
    all_goals
      obtain ⟨x, hx, h⟩ := ok_of_bind h
      cases h
    -- only two of the fields are sizes
    any_goals exact hd
    all_goals
      obtain ⟨y, hy, rfl⟩ := Json.once_ok hx
      intro n hn
    · rcases hn with ⟨⟨⟩⟩ | hn
      · exact Json.le_of_unsigned (Json.optional_ok hy)
      · exact hd n (.inr hn)
    · rcases hn with hn | ⟨⟨⟩⟩
      · exact hd n (.inl hn)
      · exact Json.le_of_unsigned (Json.optional_ok hy)
  · rw [step_of_not_mem_keys hkey] at h
    obtain ⟨v, -, h⟩ := ok_of_bind h
    cases h
    exact hd

/-- What is carried along could have been read, wherever the record was read from. -/
theorem carried_of_decoder {depth : Nat} {n : Node} {m : ModelInfo} (h : decoder depth n = .ok m) :
    Carried keys (depth - 1) m.extra := by
  obtain ⟨ns, -, hkept⟩ := kept_of_decoder h
  exact hkept.carried

/-- **What was read can be published and read again.** -/
theorem isReadable_of_decoder {n : Node} {m : ModelInfo} (h : decoder Json.maxDepth n = .ok m) :
    m.IsReadable := by
  have hextra := carried_of_decoder h
  obtain ⟨ns, broken, rfl, hread⟩ := Json.record_ok h
  obtain ⟨d, hd, hread⟩ := ok_of_bind hread
  obtain ⟨_, -, hread⟩ := ok_of_bind hread
  cases hread
  have hfits : d.Fits := Decoder.members_invariant (P := Draft.Fits)
    (fun _ _ _ _ _ hstep hd => fits_step hstep hd) hd fun n hn => by simp at hn
  exact ⟨fun n hn => hfits n (.inl (Option.join_eq_some_iff.1 hn)),
    fun n hn => hfits n (.inr (Option.join_eq_some_iff.1 hn)), hextra⟩

end ModelInfo

end LexicalModel
