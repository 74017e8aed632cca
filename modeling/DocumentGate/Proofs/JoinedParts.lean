import DocumentGate.Proofs.HiddenPasswords
import DocumentGate.Proofs.LoweredTexts
import DocumentGate.Proofs.Results

/-!
# Parts that are joined and split again

The parts of a connection string hold no marks at which they would be parted once more.  So they
are found again in the text that is joined of them, and that stays so when another authority takes
the place of theirs, as long as the other one holds none of the characters that no authority holds
and is bracketed soundly.
-/

namespace DocumentGate

/-! ## Texts that were cut -/

namespace Text

theorem cut_append_of_not_mem {separator : Char} {before : List Char} (absent : separator ∉ before)
    (rest : List Char) : cut separator (before ++ rest) =
      (before ++ (cut separator rest).1, (cut separator rest).2) := by
  induction before with
  | nil =>
      rfl
  | cons first further ih =>
      simp only [List.mem_cons, not_or] at absent
      simp [cut, Ne.symm absent.1, ih absent.2]

theorem cut_none_of_not_mem {separator : Char} {characters : List Char}
    (absent : separator ∉ characters) : cut separator characters = (characters, none) := by
  simpa [cut] using cut_append_of_not_mem absent []

/-- A text is whole, or it is cut where the separator stands for the first time. -/
theorem cut_cases (separator : Char) (characters : List Char) :
    (separator ∉ characters ∧ cut separator characters = (characters, none)) ∨
      ∃ before after, separator ∉ before ∧ characters = before ++ separator :: after ∧
        cut separator characters = (before, some after) := by
  by_cases member : separator ∈ characters
  · rcases List.eq_append_cons_of_mem member with ⟨before, after, rfl, first⟩
    exact Or.inr ⟨before, after, first, rfl, cut_of_not_mem first after⟩
  · exact Or.inl ⟨member, cut_none_of_not_mem member⟩

/-- A text is whole, or it is cut where the separator stands for the last time. -/
theorem cutLast_cases (separator : Char) (characters : List Char) :
    (separator ∉ characters ∧ cutLast separator characters = (none, characters)) ∨
      ∃ before after, separator ∉ after ∧ characters = before ++ separator :: after ∧
        cutLast separator characters = (some before, after) := by
  by_cases member : separator ∈ characters
  · rcases List.eq_append_cons_of_mem (List.mem_reverse.mpr member) with
      ⟨after, before, reversed, last⟩
    have split : characters = before.reverse ++ separator :: after.reverse := by
      rw [← List.reverse_reverse characters, reversed]
      simp
    have absent : separator ∉ after.reverse := by
      rwa [List.mem_reverse]
    exact Or.inr ⟨before.reverse, after.reverse, absent, split,
      split ▸ cutLast_of_not_mem absent before.reverse⟩
  · exact Or.inl ⟨member, cutLast_none_of_not_mem member⟩

/-- The separator does not stand before the place where a text is cut. -/
theorem not_mem_cut (separator : Char) (characters : List Char) :
    separator ∉ (cut separator characters).1 := by
  rcases cut_cases separator characters with ⟨absent, whole⟩ | ⟨before, after, absent, -, parted⟩
  · rwa [whole]
  · rwa [parted]

theorem cut_prefix (separator : Char) (characters : List Char) :
    (cut separator characters).1 <+: characters := by
  rcases cut_cases separator characters with ⟨-, whole⟩ | ⟨before, after, -, rfl, parted⟩
  · exact whole ▸ List.prefix_rfl
  · rw [parted]
    exact List.prefix_append before (separator :: after)

/-- Both sides of a text that was cut are taken from it. -/
theorem cut_sublist (separator : Char) (characters : List Char) :
    ((cut separator characters).1 ++ (cut separator characters).2.getD []).Sublist characters := by
  rcases cut_cases separator characters with ⟨-, whole⟩ | ⟨before, after, -, rfl, parted⟩
  · rw [whole, Option.getD_none, List.append_nil]
  · rw [parted, Option.getD_some]
    exact (List.Sublist.refl before).append (List.sublist_cons_self separator after)

end Text

namespace Uri

/-! ## What parts hold -/

/-- The characters that no authority holds. -/
def foreign : List Char :=
  "/?#\t\r\n".toList ++ disguises.map Char.ofNat

theorem mem_foreign_of_endsAuthority {character : Char}
    (ends : endsAuthority character = true) : character ∈ foreign := by
  simp only [endsAuthority, Bool.or_eq_true, decide_eq_true_eq] at ends
  rcases ends with (rfl | rfl) | rfl <;> decide +kernel

theorem mem_foreign_of_isDropped {character : Char}
    (dropped : isDropped character = true) : character ∈ foreign := by
  simp only [isDropped, Bool.or_eq_true, decide_eq_true_eq] at dropped
  rcases dropped with (rfl | rfl) | rfl <;> decide +kernel

theorem mem_foreign_of_disguises {character : Char}
    (disguised : character.toNat ∈ disguises) : character ∈ foreign :=
  List.mem_append_right _ (List.mem_map.mpr ⟨_, disguised, Char.ofNat_toNat character⟩)

/-- A foreign character ends an authority, is dropped, or is a delimiter in disguise. -/
theorem foreign_cases : ∀ character ∈ foreign, endsAuthority character = true ∨
    isDropped character = true ∨ character.toNat ∈ disguises :=
  List.forall_iff_forall_mem.mp (by decide +kernel)

theorem checkDelimiters_iff (authority : List Char) :
    checkDelimiters authority = .ok () ↔
      ∀ character ∈ authority, character.toNat ∉ disguises := by
  rw [checkDelimiters]
  split
  · rename_i disguised
    rcases List.any_eq_true.mp disguised with ⟨character, member, contained⟩
    refine iff_of_false (by rintro ⟨⟩) fun none => ?_
    exact none character member (by simpa using contained)
  · rename_i plain
    refine iff_of_true rfl fun character member contained => plain ?_
    exact List.any_eq_true.mpr ⟨character, member, by simpa using contained⟩

/-- The parts are such as splitting leaves them. -/
structure HasParts (uri : Uri) : Prop where
  scheme : uri.scheme = [] ∨
    spellsScheme uri.scheme = true ∧ uri.scheme.map Char.toLower = uri.scheme
  authority : ∀ character ∈ foreign, character ∉ uri.authority
  starts : uri.path.head?.all endsAuthority = true
  path : '#' ∉ uri.path ∧ '?' ∉ uri.path
  query : '#' ∉ uri.query
  kept : ∀ character ∈ uri.path ++ uri.query ++ uri.fragment, isDropped character = false

/-- Another authority without foreign characters may take the place of the old one. -/
theorem HasParts.withAuthority {uri : Uri} (parts : uri.HasParts) {authority : List Char}
    (native : ∀ character ∈ foreign, character ∉ authority) :
    HasParts { uri with authority := authority } :=
  ⟨parts.scheme, native, parts.starts, parts.path, parts.query, parts.kept⟩

/-! ## Parts of a text that is split -/

section Split

/-- What lower case keeps of the characters of ASCII it keeps of all characters. -/
theorem toLower_keeps (property : Char → Prop)
    (keeps : ∀ code < 0x80, property (.ofNat code) → property (Char.ofNat code).toLower)
    {character : Char} (holds : property character) : property character.toLower := by
  by_cases ascii : character.toNat < 0x80
  · exact Text.of_ascii (fun character => property character → property character.toLower) keeps
      ascii holds
  · rwa [Text.toLower_of_beyond (Nat.le_of_not_lt ascii)]

theorem toLower_toLower (character : Char) :
    character.toLower.toLower = character.toLower := by
  by_cases ascii : character.toNat < 0x80
  · exact Text.of_ascii (fun character => character.toLower.toLower = character.toLower)
      (by decide) ascii
  · rw [Text.toLower_of_beyond (Nat.le_of_not_lt ascii),
      Text.toLower_of_beyond (Nat.le_of_not_lt ascii)]

theorem spellsScheme_toLower {scheme : List Char} (isScheme : spellsScheme scheme = true) :
    spellsScheme (scheme.map Char.toLower) = true := by
  cases scheme with
  | nil =>
      cases isScheme
  | cons first others =>
      rcases Bool.and_eq_true_iff.mp isScheme with ⟨letter, parts⟩
      refine Bool.and_eq_true_iff.mpr ⟨?_, List.all_eq_true.mpr fun character member => ?_⟩
      · exact toLower_keeps (·.isAlpha = true) (by decide) letter
      · rcases List.mem_map.mp member with ⟨other, further, rfl⟩
        exact toLower_keeps (isSchemePart · = true) (by decide)
          (List.all_eq_true.mp parts other further)

/-- A scheme is split off in lower case, or there is none and the text stays whole. -/
theorem splitScheme_cases (characters : List Char) :
    splitScheme characters = ([], characters) ∨
      ∃ scheme rest, spellsScheme scheme = true ∧ characters = scheme ++ ':' :: rest ∧
        splitScheme characters = (scheme.map Char.toLower, rest) := by
  rcases Text.cut_cases ':' characters with ⟨-, whole⟩ | ⟨before, after, -, rfl, parted⟩
  · refine Or.inl ?_
    rw [splitScheme, whole]
    cases characters <;> rfl
  · by_cases isScheme : spellsScheme before = true
    · exact Or.inr ⟨before, after, isScheme, rfl, splitScheme_eq isScheme after⟩
    · refine Or.inl ?_
      rw [splitScheme, parted]
      cases before with
      | nil =>
          rfl
      | cons first others =>
          exact if_neg isScheme

/-- An authority is split off behind two slashes, if it is bracketed soundly. -/
theorem splitAuthority_cases {characters authority tail : List Char}
    (parted : splitAuthority characters = .ok (authority, tail)) :
    (authority = [] ∧ tail = characters) ∨
      (characters = '/' :: '/' :: (authority ++ tail) ∧ checkBrackets authority = .ok () ∧
        (∀ character ∈ authority, endsAuthority character = false) ∧
        tail.head?.all endsAuthority = true) := by
  unfold splitAuthority at parted
  split at parted
  · rename_i rest
    dsimp only at parted
    cases brackets : checkBrackets (rest.takeWhile (!endsAuthority ·)) with
    | error fault =>
        rw [brackets] at parted
        cases parted
    | ok =>
        rw [brackets] at parted
        cases parted
        refine Or.inr ⟨by rw [List.takeWhile_append_dropWhile], brackets,
          fun character member => ?_, ?_⟩
        · simpa using List.mem_takeWhile_imp member
        · cases dropped : rest.dropWhile (!endsAuthority ·) with
          | nil =>
              rfl
          | cons first others =>
              have stops := List.head?_dropWhile_not (!endsAuthority ·) rest
              simpa [dropped] using stops
  · cases parted
    exact Or.inl ⟨rfl, rfl⟩

theorem splitScheme_subset (characters : List Char) :
    (splitScheme characters).2 ⊆ characters := by
  rcases splitScheme_cases characters with whole | ⟨scheme, rest, -, rfl, parted⟩
  · rw [whole]
    exact List.Subset.refl characters
  · rw [parted]
    exact fun character member => List.mem_append_right scheme (List.mem_cons_of_mem ':' member)

theorem isDropped_of_mem_significant {characters : List Char} {character : Char}
    (member : character ∈ significant characters) : isDropped character = false := by
  simpa using (List.mem_filter.mp member).2

/-- The parts are found one after the other. -/
theorem split_eq_ok {characters : List Char} {uri : Uri} (parted : split characters = .ok uri) :
    ∃ rest tail, splitScheme (significant characters) = (uri.scheme, rest) ∧
      splitAuthority rest = .ok (uri.authority, tail) ∧
      checkDelimiters uri.authority = .ok () ∧
      uri.path = (Text.cut '?' (Text.cut '#' tail).1).1 ∧
      uri.query = (Text.cut '?' (Text.cut '#' tail).1).2.getD [] ∧
      uri.fragment = (Text.cut '#' tail).2.getD [] := by
  rcases bind_eq_ok parted with ⟨⟨authority, tail⟩, found, further⟩
  rcases bind_eq_ok further with ⟨_, plain, made⟩
  cases made
  exact ⟨_, tail, rfl, found, plain, rfl, rfl, rfl⟩

/-- The parts of a text with an authority are parts that can be joined again. -/
theorem hasParts_of_split {characters : List Char} {uri : Uri}
    (parted : split characters = .ok uri) (authorized : uri.authority ≠ []) :
    uri.HasParts ∧ checkBrackets uri.authority = .ok () := by
  rcases split_eq_ok parted with ⟨rest, tail, schemed, found, plain, path, query, fragment⟩
  have kept : ∀ character ∈ rest, isDropped character = false := fun character member =>
    isDropped_of_mem_significant (splitScheme_subset (significant characters) (schemed ▸ member))
  rcases splitAuthority_cases found with ⟨none, -⟩ | ⟨rfl, brackets, within, ends⟩
  · exact absurd none authorized
  · have ofTail : (uri.path ++ uri.query ++ uri.fragment).Sublist tail := by
      rw [path, query, fragment]
      exact ((Text.cut_sublist '?' _).append_right _).trans (Text.cut_sublist '#' tail)
    have ofPath : uri.path <+: (Text.cut '#' tail).1 := path ▸ Text.cut_prefix '?' _
    refine ⟨⟨?_, fun character isForeign member => ?_, ?_, ⟨?_, ?_⟩, ?_, ?_⟩, brackets⟩
    · rcases splitScheme_cases (significant characters) with
        whole | ⟨scheme, _, isScheme, -, parted⟩
      · exact Or.inl (congrArg Prod.fst (schemed.symm.trans whole))
      · have lowered : uri.scheme = scheme.map Char.toLower :=
          congrArg Prod.fst (schemed.symm.trans parted)
        rw [lowered, List.map_map]
        refine Or.inr ⟨spellsScheme_toLower isScheme, List.map_congr_left fun character _ => ?_⟩
        exact toLower_toLower character
    · rcases foreign_cases character isForeign with ending | dropped | disguised
      · exact Bool.false_ne_true ((within character member).symm.trans ending)
      · exact Bool.false_ne_true ((kept character (by simp [member])).symm.trans dropped)
      · exact (checkDelimiters_iff _).mp plain character member disguised
    · rcases ofPath.trans (Text.cut_prefix '#' tail) with ⟨others, rfl⟩
      cases same : uri.path with
      | nil =>
          rfl
      | cons first further =>
          simpa [same] using ends
    · exact fun member => Text.not_mem_cut '#' tail (ofPath.subset member)
    · exact path ▸ Text.not_mem_cut '?' _
    · refine fun member => Text.not_mem_cut '#' tail ((Text.cut_sublist '?' _).subset ?_)
      exact List.mem_append_right _ (query ▸ member)
    · exact fun character member => kept character (by simp [ofTail.subset member])

end Split

/-! ## Joined parts -/

/-- A text that ends in a marked part is parted again at its mark. -/
theorem cut_marked {mark : Char} {before : List Char} (absent : mark ∉ before)
    (part : List Char) : (Text.cut mark (before ++ marked mark part)).1 = before ∧
      (Text.cut mark (before ++ marked mark part)).2.getD [] = part := by
  cases part with
  | nil =>
      rw [marked, List.isEmpty_nil, if_pos rfl, List.append_nil, Text.cut_none_of_not_mem absent]
      exact ⟨rfl, rfl⟩
  | cons first rest =>
      rw [marked, List.isEmpty_cons, if_neg Bool.false_ne_true, Text.cut_of_not_mem absent]
      exact ⟨rfl, rfl⟩

/-- The text behind the authority. -/
def tail (uri : Uri) : List Char :=
  uri.path ++ marked '?' uri.query ++ marked '#' uri.fragment

/-- No scheme is split off in front of a slash. -/
theorem splitScheme_slash (rest : List Char) : splitScheme ('/' :: rest) = ([], '/' :: rest) := by
  rcases splitScheme_cases ('/' :: rest) with whole | ⟨scheme, others, isScheme, same, -⟩
  · exact whole
  · cases scheme with
    | nil =>
        cases isScheme
    | cons first further =>
        cases same
        cases isScheme

theorem join_eq (uri : Uri) : uri.join =
    (if uri.scheme.isEmpty then [] else uri.scheme ++ [':']) ++
      '/' :: '/' :: (uri.authority ++ uri.tail) := by
  simp [join, tail]

theorem mem_of_mem_marked {mark character : Char} {part : List Char}
    (member : character ∈ marked mark part) : character = mark ∨ character ∈ part := by
  unfold marked at member
  split at member
  · cases member
  · exact List.mem_cons.mp member

/-- A character of a joined text is a mark or a character of one of the parts. -/
theorem mem_of_mem_join {uri : Uri} {character : Char} (member : character ∈ uri.join) :
    character ∈ ":/?#".toList ∨ character ∈ uri.scheme ∨ character ∈ uri.authority ∨
      character ∈ uri.path ++ uri.query ++ uri.fragment := by
  rw [join_eq, List.mem_append, List.mem_cons, List.mem_cons, tail] at member
  simp only [List.mem_append] at member ⊢
  rcases member with front | rfl | rfl | authority | (path | query) | fragment
  · split at front
    · cases front
    · rcases List.mem_append.mp front with scheme | colon
      · exact Or.inr (Or.inl scheme)
      · exact Or.inl (List.mem_singleton.mp colon ▸ by decide)
  · exact Or.inl (by decide)
  · exact Or.inl (by decide)
  · exact Or.inr (Or.inr (Or.inl authority))
  · exact Or.inr (Or.inr (Or.inr (Or.inl (Or.inl path))))
  · rcases mem_of_mem_marked query with rfl | further
    · exact Or.inl (by decide)
    · exact Or.inr (Or.inr (Or.inr (Or.inl (Or.inr further))))
  · rcases mem_of_mem_marked fragment with rfl | further
    · exact Or.inl (by decide)
    · exact Or.inr (Or.inr (Or.inr (Or.inr further)))

namespace HasParts

variable {uri : Uri} (parts : uri.HasParts)

include parts

theorem starts_tail : uri.tail.head?.all endsAuthority = true := by
  have starts := parts.starts
  unfold tail marked
  cases path : uri.path with
  | cons first rest =>
      simpa [path] using starts
  | nil =>
      cases uri.query <;> cases uri.fragment <;> rfl

theorem partsOf_tail :
    { partsOf [] uri.authority uri.tail with scheme := uri.scheme } = uri := by
  have absent : '#' ∉ uri.path ++ marked '?' uri.query := by
    rw [List.mem_append, marked]
    rintro (ofPath | ofQuery)
    · exact parts.path.1 ofPath
    · split at ofQuery
      · cases ofQuery
      · rcases List.mem_cons.mp ofQuery with same | further
        · revert same
          decide
        · exact parts.query further
  have byFragment := cut_marked absent uri.fragment
  have byQuery := cut_marked parts.path.2 uri.query
  simp only [partsOf, tail, byFragment, byQuery]

/-- No character of the joined text is dropped. -/
theorem isDropped_of_mem_join {character : Char} (member : character ∈ uri.join) :
    isDropped character = false := by
  rcases mem_of_mem_join member with mark | scheme | authority | further
  · have kept : ∀ mark ∈ ":/?#".toList, isDropped mark = false :=
      List.forall_iff_forall_mem.mp (by decide)
    exact kept character mark
  · rcases parts.scheme with none | ⟨isScheme, -⟩
    · rw [none] at scheme
      cases scheme
    · exact isDropped_of_scheme isScheme scheme
  · rw [← Bool.not_eq_true]
    exact fun dropped => parts.authority character (mem_foreign_of_isDropped dropped) authority
  · exact parts.kept character further

/-- The joined text begins with a letter or a slash. -/
theorem isLeadIn_head_join : uri.join.head?.all (!isLeadIn ·) = true := by
  rw [join_eq]
  rcases parts.scheme with none | ⟨isScheme, -⟩
  · rw [none]
    rfl
  · cases scheme : uri.scheme with
    | nil =>
        rfl
    | cons first others =>
        rw [scheme] at isScheme
        have letter := isLeadIn_of_isAlpha (Bool.and_eq_true_iff.mp isScheme).1
        simp [letter]

/-- Nothing is dropped from the joined text. -/
theorem significant_join : significant uri.join = uri.join := by
  have leads := parts.isLeadIn_head_join
  have whole : uri.join.dropWhile isLeadIn = uri.join := by
    cases joined : uri.join with
    | nil =>
        rfl
    | cons first rest =>
        rw [joined] at leads
        exact List.dropWhile_cons_of_neg (by simpa using leads)
  rw [significant, whole, List.filter_eq_self]
  intro character member
  rw [parts.isDropped_of_mem_join member]
  rfl

theorem splitScheme_join :
    splitScheme uri.join = (uri.scheme, '/' :: '/' :: (uri.authority ++ uri.tail)) := by
  rcases parts.scheme with none | ⟨isScheme, lower⟩
  · rw [join_eq, none, List.isEmpty_nil, if_pos rfl, List.nil_append, splitScheme_slash]
  · have some : uri.scheme.isEmpty = false := by
      cases scheme : uri.scheme with
      | nil =>
          rw [scheme] at isScheme
          cases isScheme
      | cons =>
          rfl
    rw [join_eq, some, if_neg Bool.false_ne_true, List.append_assoc, List.singleton_append,
      splitScheme_eq isScheme, lower]

/-- The parts are found again in the text that is joined of them. -/
theorem split_join : split uri.join = (checkBrackets uri.authority).map fun _ => uri := by
  have within : ∀ character ∈ uri.authority, endsAuthority character = false := by
    intro character member
    rw [← Bool.not_eq_true]
    exact fun ends => parts.authority character (mem_foreign_of_endsAuthority ends) member
  have plain : checkDelimiters uri.authority = .ok () := by
    refine (checkDelimiters_iff _).mpr fun character member disguised => ?_
    exact parts.authority character (mem_foreign_of_disguises disguised) member
  rw [split_of_splitScheme parts.significant_join parts.splitScheme_join within parts.starts_tail
    plain, parts.partsOf_tail]

end HasParts

end Uri
end DocumentGate
