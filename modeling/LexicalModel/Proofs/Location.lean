import LexicalModel.Identity
import LexicalModel.Proofs.Layout
import LexicalModel.Proofs.Path.Normal

/-!
# What the path of a build directory says

A build directory is accepted for a model when its last four names spell the model's identifier.
Only names are looked at, and the names of the author's and of the model's directory only as one
text.  Two things follow.  A dot may stand in the author's directory instead of the model's, so that
the identifier is cut in another place than the directories are; and `..` is passed over instead of
being followed, so that a path may be accepted that denotes another directory.

* `Location.check_eq_ok_iff` : which directories are accepted, and as what location
* `Location.mirrors_iff_no_dot` : when the location has the segments of the identifier
* `Location.check_normalize_iff` : when a path is accepted just as the directory it denotes
-/

namespace LexicalModel

namespace Location

open LexicalModel.Path (namesOf)
open Text.Utf8 (bytes lossy)

theorem namesUpwards_eq (p : Path) :
    namesUpwards p = ((namesOf p.components).map lossy).reverse := by
  rw [namesUpwards, List.filterMap_reverse, namesOf, List.map_filterMap]
  refine congrArg List.reverse (List.filterMap_congr fun c _ => ?_)
  cases c <;> rfl

/-! ### Which directories are accepted -/

theorem namesUpwards_eq_iff {p : Path} {a b c d : String} {rest : List String} :
    namesUpwards p = a :: b :: c :: d :: rest ↔
      (namesOf p.components).map lossy = rest.reverse ++ [d, c, b, a] := by
  rw [namesUpwards_eq, List.reverse_eq_iff]
  simp

/-- An identifier is shown without replacement characters, and so are the names that spell it. -/
theorem not_mem_of_spelled {author language : String} {id : Identifier}
    (h : author ++ "." ++ language = id.text) :
    '\ufffd' ∉ author.toList ∧ '\ufffd' ∉ language.toList := by
  have hsegment : ∀ cs : List Char, isSegment cs = true → '\ufffd' ∉ cs := by
    intro cs hcs hmem
    exact absurd (isSegmentChar_of_mem hcs hmem) (by decide)
  have hid : '\ufffd' ∉ (author ++ "." ++ language).toList := by
    rw [h, id.text_toList]
    simp [hsegment _ id.author_isSegment, hsegment _ id.bcp47_isSegment,
      hsegment _ id.uniq_isSegment]
  simp only [String.toList_append, List.mem_append, not_or] at hid
  exact ⟨hid.1.1, hid.2⟩

/-- Names are shown as a location when the last of them spell it; that of the group is only shown
so. -/
theorem map_lossy_eq_iff {names : List (List UInt8)} {loc : Location} {id : Identifier}
    (hid : loc.author ++ "." ++ loc.language = id.text) :
    (∃ front, names.map lossy = front ++ [loc.group, loc.author, loc.language, buildDirName]) ↔
      ∃ front group, lossy group = loc.group ∧
        names = front ++ [group, bytes loc.author, bytes loc.language, bytes buildDirName] := by
  obtain ⟨hauthor, hlanguage⟩ := not_mem_of_spelled hid
  constructor
  · -- author and language have no replacement character, so their names are texts
    rintro ⟨front, h⟩
    obtain ⟨before, last, rfl, -, hlast⟩ := List.map_eq_append_iff.1 h
    obtain ⟨group, rest, rfl, hgroup, hrest⟩ := List.map_eq_cons_iff.1 hlast
    obtain ⟨author, rest, rfl, ha, hrest⟩ := List.map_eq_cons_iff.1 hrest
    obtain ⟨language, rest, rfl, hl, hrest⟩ := List.map_eq_cons_iff.1 hrest
    obtain ⟨build, rest, rfl, hb, hrest⟩ := List.map_eq_cons_iff.1 hrest
    obtain rfl := List.map_eq_nil_iff.1 hrest
    rw [Text.Utf8.lossy_eq_iff hauthor] at ha
    rw [Text.Utf8.lossy_eq_iff hlanguage] at hl
    rw [Text.Utf8.lossy_eq_iff (by decide)] at hb
    exact ⟨before, group, hgroup, by rw [ha, hl, hb]⟩
  · rintro ⟨front, group, hgroup, rfl⟩
    exact ⟨front.map lossy, by simp [hgroup]⟩

/-- **A directory is accepted when its last names spell the identifier**, and the location has those
names. -/
theorem check_eq_ok_iff {p : Path} {id : Identifier} {loc : Location} :
    check p id = .ok loc ↔
      (∃ front group, lossy group = loc.group ∧ namesOf p.components =
        front ++ [group, bytes loc.author, bytes loc.language, bytes buildDirName]) ∧
      loc.author ++ "." ++ loc.language = id.text := by
  rw [and_congr_left fun hid => (map_lossy_eq_iff hid).symm]
  constructor
  · intro h
    simp only [check] at h
    split at h
    · next dir language author group rest hnames =>
      split_ifs at h with hspelled
      · cases h
        refine ⟨⟨rest.reverse, ?_⟩, hspelled.2⟩
        rw [namesUpwards_eq_iff.1 hnames, hspelled.1]
      · cases h
    · cases h
  · rintro ⟨⟨front, hnames⟩, hid⟩
    rw [← List.reverse_reverse front, ← namesUpwards_eq_iff] at hnames
    simp only [check, hnames, hid, and_self, ↓reduceIte]

/-- Lists with the same first four items are the same, or have four items. -/
theorem eq_or_of_take_four {ns ms : List String} (h : ns.take 4 = ms.take 4) :
    ns = ms ∨ ∃ a b c d ns' ms', ns = a :: b :: c :: d :: ns' ∧ ms = a :: b :: c :: d :: ms' := by
  have hlengths := congrArg List.length h
  rw [List.length_take, List.length_take] at hlengths
  rcases ns with _ | ⟨a, _ | ⟨b, _ | ⟨c, _ | ⟨d, ns⟩⟩⟩⟩
  case cons.cons.cons.cons =>
    right
    refine ⟨a, b, c, d, ns, ms.drop 4, rfl, ?_⟩
    have hms := (List.take_append_drop 4 ms).symm
    rw [← h] at hms
    exact hms
  all_goals
    left
    simp only [List.length_nil, List.length_cons] at hlengths
    rw [List.take_of_length_le (by simp), List.take_of_length_le (by omega)] at h
    exact h

/-- Everything is decided by the last four names. -/
theorem check_congr {p q : Path} (h : (namesUpwards p).take 4 = (namesUpwards q).take 4)
    (id : Identifier) : check p id = check q id := by
  rcases eq_or_of_take_four h with hnames | ⟨a, b, c, d, ps, qs, hp, hq⟩
  · simp only [check, hnames]
  · simp only [check, hp, hq, spelledId]

theorem take_namesUpwards {p : Path} {id : Identifier} {loc : Location}
    (h : check p id = .ok loc) :
    (namesUpwards p).take 4 = [buildDirName, loc.language, loc.author, loc.group] := by
  obtain ⟨hplace, hid⟩ := check_eq_ok_iff.1 h
  obtain ⟨front, hnames⟩ := (map_lossy_eq_iff hid).2 hplace
  rw [← List.reverse_reverse front, ← namesUpwards_eq_iff] at hnames
  rw [hnames]
  rfl

/-! ### Cutting an identifier in two -/

/-- A text with a dot in it is cut at its first dot or later. -/
theorem cut_at_dot {x y a r : List Char} (ha : '.' ∉ a) (h : x ++ '.' :: y = a ++ '.' :: r) :
    (x = a ∧ y = r) ∨ ∃ z, x = a ++ '.' :: z ∧ z ++ '.' :: y = r := by
  rcases List.append_eq_append_iff.1 h with ⟨m, rfl, hm⟩ | ⟨m, rfl, hm⟩
  · cases m with
    | nil => exact .inl ⟨by simp, (List.cons.inj hm).2⟩
    | cons c m =>
      obtain ⟨rfl, -⟩ := List.cons.inj hm
      exact absurd (by simp) ha
  · cases m with
    | nil => exact .inl ⟨by simp, (List.cons.inj hm).2.symm⟩
    | cons c m =>
      obtain ⟨rfl, hr⟩ := List.cons.inj hm
      exact .inr ⟨m, rfl, hr.symm⟩

theorem dot_not_mem {segment : String} (h : isSegment segment.toList = true) :
    '.' ∉ segment.toList := fun hdot =>
  absurd (isSegmentChar_of_mem h hdot) (by decide)

/-- Two names that spell an identifier have one of its segments and two of them. -/
theorem names_of_spelled {author language : String} {id : Identifier}
    (h : author ++ "." ++ language = id.text) :
    (author = id.author ∧ language = id.bcp47 ++ "." ++ id.uniq) ∨
      (author = id.author ++ "." ++ id.bcp47 ∧ language = id.uniq) := by
  have hdot : ".".toList = ['.'] := rfl
  have hchars : author.toList ++ '.' :: language.toList =
      id.author.toList ++ '.' :: (id.bcp47.toList ++ '.' :: id.uniq.toList) := by
    rw [← id.text_toList, ← h]
    simp [hdot]
  simp only [← String.toList_inj, String.toList_append, hdot, List.append_assoc,
    List.singleton_append]
  rcases cut_at_dot (dot_not_mem id.author_isSegment) hchars with hcut | ⟨z, hz, hrest⟩
  · exact .inl hcut
  · rcases cut_at_dot (dot_not_mem id.bcp47_isSegment) hrest with ⟨rfl, hlanguage⟩ | ⟨z', -, huniq⟩
    · exact .inr ⟨hz, hlanguage⟩
    · -- the last segment has no dot
      refine absurd ?_ (dot_not_mem id.uniq_isSegment)
      rw [← huniq]
      simp

/-- **The location has the segments of the identifier just where no dot stands in the name of the
author's directory.**  Where one does, the directories cut the identifier after its second
segment. -/
theorem mirrors_iff_no_dot {buildDir : Path} {id : Identifier} {loc : Location}
    (h : check buildDir id = .ok loc) :
    (∃ front group, lossy group = loc.group ∧ namesOf buildDir.components =
      front ++ [group, bytes loc.author, bytes loc.language, bytes buildDirName]) ∧
    ((loc.author = id.author ∧ loc.language = id.bcp47 ++ "." ++ id.uniq) ↔
      '.' ∉ loc.author.toList) ∧
    ('.' ∉ loc.author.toList →
      loc.sourcePath = loc.group ++ "/" ++ id.author ++ "/" ++ (id.bcp47 ++ "." ++ id.uniq)) ∧
    ('.' ∈ loc.author.toList →
      loc.author = id.author ++ "." ++ id.bcp47 ∧ loc.language = id.uniq) := by
  obtain ⟨hnames, hspelled⟩ := check_eq_ok_iff.1 h
  have hdot : '.' ∈ (id.author ++ "." ++ id.bcp47).toList := by
    rw [String.toList_append, String.toList_append]
    exact List.mem_append_left _ (List.mem_append_right _ (by decide))
  refine ⟨hnames, ?_⟩
  rcases names_of_spelled hspelled with ⟨hauthor, hlanguage⟩ | ⟨hauthor, hlanguage⟩
  · have hnone : '.' ∉ loc.author.toList := hauthor ▸ dot_not_mem id.author_isSegment
    refine ⟨iff_of_true ⟨hauthor, hlanguage⟩ hnone, fun _ => ?_, fun hmem => absurd hmem hnone⟩
    rw [sourcePath, hauthor, hlanguage]
  · have hmem : '.' ∈ loc.author.toList := hauthor ▸ hdot
    refine ⟨iff_of_false ?_ fun hnone => hnone hmem, fun hnone => absurd hmem hnone,
      fun _ => ⟨hauthor, hlanguage⟩⟩
    rintro ⟨hmirror, -⟩
    exact dot_not_mem id.author_isSegment (hmirror ▸ hmem)

/-- The identifier `demo.en.sample`. -/
def demoIdentifier : Identifier := ⟨"demo", "en", "sample", rfl, rfl, rfl⟩

theorem mirrors_demo :
    ∃ loc, check (.ofText "/g/demo/en.sample/build") demoIdentifier = .ok loc ∧
      loc.author = "demo" ∧ loc.language = "en.sample" := by
  have hcheck : check (.ofText "/g/demo/en.sample/build") demoIdentifier =
      .ok ⟨"g", "demo", "en.sample"⟩ := by
    rfl
  exact ⟨_, hcheck, (mirrors_iff_no_dot hcheck).2.1.2 (by decide)⟩

/-- A directory is accepted whose author would be another one. -/
theorem accepts_dotted_author :
    check (.ofText "/g/demo.en/sample/build") demoIdentifier = .ok ⟨"g", "demo.en", "sample"⟩ ∧
      "demo.en" ≠ demoIdentifier.author := by
  constructor
  · rfl
  · decide

/-! ### The directory that a path denotes -/

theorem check_normalize_of_tail {p : Path} {front tail : List Component}
    (hp : p.components = front ++ tail) (htail : Component.parent ∉ tail)
    (henough : 4 ≤ (namesOf tail).length ∨ Component.parent ∉ front) (id : Identifier) :
    check p.normalize id = check p id := by
  refine check_congr ?_ id
  rw [namesUpwards_eq, namesUpwards_eq, Path.components_normalize, hp,
    Path.namesOf_normalComponents_append front htail, Path.namesOf_append, List.map_append,
    List.map_append, List.reverse_append, List.reverse_append]
  rcases henough with hlength | hfront
  · rw [List.take_append_of_le_length (by simpa using hlength),
      List.take_append_of_le_length (by simpa using hlength)]
  · rw [Path.namesOf_normalComponents hfront]

/-- **When a path is accepted just as the directory that it denotes.**  The two are accepted as the
same location, or neither is, exactly if they have the same last four names whenever one of them is
accepted.  It is so when no `..` stands after the fourth name from the end.  And a normal form that
is accepted ends in the directories of the location. -/
theorem check_normalize_iff (p : Path) (id : Identifier) :
    ((∀ loc, check p id = .ok loc ↔ check p.normalize id = .ok loc) ↔
      ((∃ loc, check p id = .ok loc ∨ check p.normalize id = .ok loc) →
        (namesUpwards p).take 4 = (namesUpwards p.normalize).take 4)) ∧
    (∀ front tail, p.components = front ++ tail → Component.parent ∉ tail →
      4 ≤ (namesOf tail).length ∨ Component.parent ∉ front →
      check p.normalize id = check p id) ∧
    ∀ loc, check p.normalize id = .ok loc → loc.author ++ "." ++ loc.language = id.text ∧
      ∃ front group, lossy group = loc.group ∧ p.normalize.components = front ++
        [.name group, .name (bytes loc.author), .name (bytes loc.language),
          .name (bytes buildDirName)] := by
  refine ⟨⟨?_, ?_⟩, ?_, ?_⟩
  · -- where one of the two is accepted so is the other, with the names of the location
    rintro hagree ⟨loc, hloc⟩
    have hboth : check p id = .ok loc ∧ check p.normalize id = .ok loc := by
      rcases hloc with hloc | hloc
      · exact ⟨hloc, (hagree loc).1 hloc⟩
      · exact ⟨(hagree loc).2 hloc, hloc⟩
    rw [take_namesUpwards hboth.1, take_namesUpwards hboth.2]
  · intro hnames loc
    constructor
    · intro hloc
      rw [← check_congr (hnames ⟨loc, .inl hloc⟩), hloc]
    · intro hloc
      rw [check_congr (hnames ⟨loc, .inr hloc⟩), hloc]
  · intro front tail hp htail henough
    exact check_normalize_of_tail hp htail henough id
  · intro loc hloc
    obtain ⟨⟨front, group, hgroup, hnames⟩, hspelled⟩ := check_eq_ok_iff.1 hloc
    refine ⟨hspelled, ?_⟩
    have hnormal : Path.IsNormal p.normalize.components := by
      rw [Path.components_normalize]
      exact Path.isNormal_normalComponents p
    obtain ⟨before, hbefore⟩ := hnormal.eq_append_of_namesOf hnames
    exact ⟨before, group, hgroup, hbefore⟩

theorem check_normalize_detour :
    check (Path.normalize (.ofText "/x/../g/./demo//en.sample/build/")) demoIdentifier =
      .ok ⟨"g", "demo", "en.sample"⟩ := by
  have hcomponents : Path.components (.ofText "/x/../g/./demo//en.sample/build/") =
      [.root, .name (bytes "x"), .parent] ++
        [.name (bytes "g"), .name (bytes "demo"), .name (bytes "en.sample"),
          .name (bytes "build")] := by
    rfl
  rw [(check_normalize_iff _ _).2.1 _ _ hcomponents (by decide) (.inl (by decide))]
  rfl

/-- A path is accepted though the directory it denotes is not. -/
theorem accepts_other_directory :
    check (.ofText "/g/demo/en.sample/../build") demoIdentifier = .ok ⟨"g", "demo", "en.sample"⟩ ∧
      Path.normalize (.ofText "/g/demo/en.sample/../build") = (.ofText "/g/demo/build") ∧
      ∀ loc, check (.ofText "/g/demo/build") demoIdentifier ≠ .ok loc := by
  refine ⟨rfl, rfl, fun loc h => ?_⟩
  cases h

end Location

end LexicalModel
