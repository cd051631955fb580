import OrderOfGrowth.Proofs.LoopTokens

/-!
# Languages of files

The language of a file is read off its path: the path is cut at slashes, empty names and single dots
are dropped, and of the last name that is left the part from its last dot on is looked up in lower
case. This says the same of the path as it is written. In front of the last name there is nothing or
a slash, and behind it there are slashes and single dots between them. The name is a stem, which is
not empty, with an extension behind it; that no later dot can cut the extension short, and no slash
can stand in it, is due to the extensions that are known.
-/

namespace OrderOfGrowth

namespace Path

/-- What can stand behind the last name of a path: slashes, each with a single dot or nothing behind
it. -/
inductive IsIdle : List Char → Prop
  | nil : IsIdle []
  | slash {rest : List Char} : IsIdle rest → IsIdle ('/' :: rest)
  | dot {rest : List Char} : IsIdle rest → IsIdle ('/' :: '.' :: rest)

/-- A written path ends in a name: there is no slash in the name, it is neither empty nor a single
dot, what stands in front of it ends in a slash, and what stands behind it is idle. -/
def EndsIn (path name : List Char) : Prop :=
  ('/' ∉ name ∧ name ≠ [] ∧ name ≠ ['.']) ∧ ∃ front behind, path = front ++ name ++ behind ∧
    (front = [] ∨ ∃ directories, front = directories ++ ['/']) ∧ IsIdle behind

variable {path name stem ending behind : List Char}

/-- A slash parts the names before it from those behind it. -/
theorem namesOf_append_slash (front rest : List Char) :
    namesOf (front ++ '/' :: rest) = namesOf front ++ namesOf rest := by
  unfold namesOf
  rw [Text.splitAt_append, List.filter_append, List.map_append]

/-- A text without a slash is one name, or none if it is empty or a single dot. -/
theorem namesOf_of_not_mem (hslash : '/' ∉ name) :
    namesOf name = if name = [] ∨ name = ['.'] then [] else [String.ofList name] := by
  unfold namesOf
  rw [Text.splitAt_of_not_mem hslash]
  by_cases hnil : name = []
  · simp [hnil]
  by_cases hdot : name = ['.']
  · simp [hdot]
  · simp [hnil, hdot]

/-- There are no names in what is idle. Neither are there in front of it, up to a name. -/
theorem namesOf_append_of_isIdle (hslash : '/' ∉ name) (h : IsIdle behind) :
    namesOf (name ++ behind) = namesOf name := by
  have hempty : namesOf [] = [] := namesOf_of_not_mem List.not_mem_nil
  have hdot : namesOf ['.'] = [] := namesOf_of_not_mem (by decide)
  induction h generalizing name with
  | nil => rw [List.append_nil]
  | slash _ ih =>
    have hrest := ih List.not_mem_nil
    rw [List.nil_append, hempty] at hrest
    rw [namesOf_append_slash, hrest, List.append_nil]
  | dot _ ih =>
    have hrest := ih (by decide : '/' ∉ ['.'])
    rw [List.singleton_append, hdot] at hrest
    rw [namesOf_append_slash, hrest, List.append_nil]

/-- A path that is written with a name at its end has it as its last name. -/
theorem lastName_of_endsIn {path : String} (h : EndsIn path.toList name) :
    (ofText path).lastName = name := by
  obtain ⟨⟨hslash, hnil, hdot⟩, front, behind, hpath, hfront, hidle⟩ := h
  have hname : namesOf (name ++ behind) = [String.ofList name] := by
    rw [namesOf_append_of_isIdle hslash hidle, namesOf_of_not_mem hslash,
      if_neg (not_or.mpr ⟨hnil, hdot⟩)]
  have hnames : ∃ before, namesOf path.toList = before ++ [String.ofList name] := by
    rw [hpath]
    rcases hfront with rfl | ⟨directories, rfl⟩
    · exact ⟨[], hname⟩
    · refine ⟨namesOf directories, ?_⟩
      rw [List.append_assoc, List.append_assoc, List.singleton_append, namesOf_append_slash, hname]
  obtain ⟨before, hbefore⟩ := hnames
  rw [Path.lastName, ofText, hbefore, List.getLast?_concat, Option.getD_some,
    String.toList_ofList]

/-- A written path has no names and is idle behind a slash, or it ends in a name. -/
theorem isIdle_or_endsIn (path : List Char) :
    (namesOf path = [] ∧ IsIdle ('/' :: path)) ∨ ∃ name, EndsIn path name := by
  induction path using Text.piece_induction '/' with
  | last piece hpiece =>
    by_cases hnil : piece = []
    · subst hnil
      exact Or.inl ⟨rfl, .slash .nil⟩
    by_cases hdot : piece = ['.']
    · subst hdot
      exact Or.inl ⟨rfl, .dot .nil⟩
    · exact Or.inr ⟨piece, ⟨hpiece, hnil, hdot⟩, [], [], by simp, Or.inl rfl, .nil⟩
  | more piece rest hpiece ih =>
    rcases ih with ⟨hnone, hidle⟩ | ⟨name, hname, front, behind, rfl, hfront, hbehind⟩
    · by_cases hnil : piece = []
      · subst hnil
        exact Or.inl ⟨by rw [namesOf_append_slash, hnone]; rfl, .slash hidle⟩
      by_cases hdot : piece = ['.']
      · subst hdot
        exact Or.inl ⟨by rw [namesOf_append_slash, hnone]; rfl, .dot hidle⟩
      · exact Or.inr ⟨piece, ⟨hpiece, hnil, hdot⟩, [], '/' :: rest, by simp, Or.inl rfl, hidle⟩
    · refine Or.inr ⟨name, hname, piece ++ '/' :: front, behind, by simp, Or.inr ?_, hbehind⟩
      rcases hfront with rfl | ⟨directories, rfl⟩
      · exact ⟨piece, rfl⟩
      · exact ⟨piece ++ '/' :: directories, by simp⟩

/-- A path that is written without a name at its end has no names. -/
theorem names_of_forall_not_endsIn {path : String} (h : ∀ name, ¬EndsIn path.toList name) :
    (ofText path).names = [] := by
  rcases isIdle_or_endsIn path.toList with ⟨hnone, -⟩ | ⟨name, hends⟩
  · exact hnone
  · exact absurd hends (h name)

/-- A name without dots has no suffix. -/
theorem nameSuffix_of_not_mem (hdot : '.' ∉ name) : nameSuffix name = [] := by
  have hall : name.reverse.takeWhile (· != '.') = name.reverse := by
    rw [List.takeWhile_eq_self_iff]
    intro c hc
    rw [bne_iff_ne]
    rintro rfl
    exact hdot (List.mem_reverse.mp hc)
  unfold nameSuffix
  rw [hall, List.reverse_reverse]
  exact if_pos (Or.inr (Nat.le_succ _))

/-- The suffix of a name begins with its last dot, unless that is its first or last character. -/
theorem nameSuffix_append_dot (hdot : '.' ∉ ending) :
    nameSuffix (stem ++ '.' :: ending) = if stem = [] ∨ ending = [] then [] else '.' :: ending := by
  have hlast : (stem ++ '.' :: ending).reverse.takeWhile (· != '.') = ending.reverse := by
    have hall : ∀ c ∈ ending.reverse, (c != '.') = true := by
      intro c hc
      rw [bne_iff_ne]
      rintro rfl
      exact hdot (List.mem_reverse.mp hc)
    rw [List.reverse_append, List.reverse_cons, List.append_assoc,
      List.takeWhile_append_of_pos hall]
    simp
  unfold nameSuffix
  rw [hlast, List.reverse_reverse]
  refine if_congr ?_ rfl rfl
  rw [List.length_append, List.length_cons, ← List.length_eq_zero_iff, ← List.length_eq_zero_iff]
  omega

/-- A name has no dot, or a last one. -/
theorem exists_last_dot (name : List Char) :
    '.' ∉ name ∨ ∃ stem ending, name = stem ++ '.' :: ending ∧ '.' ∉ ending := by
  by_cases hdot : '.' ∈ name
  · right
    obtain ⟨behind, before, hreverse, hbehind⟩ :=
      List.eq_append_cons_of_mem (List.mem_reverse.mpr hdot)
    refine ⟨before.reverse, behind.reverse, ?_, by simpa using hbehind⟩
    rw [← List.reverse_reverse name, hreverse]
    simp
  · exact Or.inl hdot

/-- A name with a suffix is a stem, which is not empty, with the suffix behind it. -/
theorem exists_stem (h : nameSuffix name ≠ []) :
    ∃ stem, name = stem ++ nameSuffix name ∧ stem ≠ [] := by
  rcases exists_last_dot name with hnone | ⟨stem, ending, rfl, hlast⟩
  · exact absurd (nameSuffix_of_not_mem hnone) h
  · rw [nameSuffix_append_dot hlast] at h ⊢
    split_ifs at h ⊢ with hedge
    · exact absurd rfl h
    · exact ⟨stem, rfl, (not_or.mp hedge).1⟩

end Path

namespace Language

variable {language : Language} {ending : List Char}

/-- A text that is a known extension in lower case is a dot with characters behind it, none of them
a dot. -/
theorem exists_dotted_of_lookup
    (h : extensions.lookup (String.ofList (Text.lowercase ending)) = some language) :
    ∃ letters, ending = '.' :: letters ∧ letters ≠ [] ∧ '.' ∉ letters := by
  have hall : ∀ entry ∈ extensions, ['.'] <+: entry.1.toList ∧ entry.1.toList.tail ≠ [] ∧
      '.' ∉ entry.1.toList.tail := by decide
  obtain ⟨hfirst, hmore, hlast⟩ := hall _ (Keyed.mem_of_lookup h)
  rw [String.toList_ofList] at hfirst hmore hlast
  have hascii : ∀ c ∈ ['.'], c.toNat < 128 ∧ c.isAlpha = false :=
    List.forall_mem_singleton.mpr (by decide)
  obtain ⟨letters, rfl⟩ := Text.prefix_of_prefix_lowerFrom hascii hfirst
  rw [List.singleton_append, Text.lowercase, Text.lowerFrom_cons,
    Text.lowerAt_of_ascii (by decide)] at hmore hlast
  refine ⟨letters, rfl, ?_, ?_⟩
  · rintro rfl
    exact hmore rfl
  · exact fun hdot => hlast ((Text.mem_lowerFrom_iff (by decide) (by decide) _).mpr hdot)

/-- The language of a path that ends in a name is that of the suffix of the name. -/
theorem ofPath?_of_endsIn {path : String} {name : List Char} (h : Path.EndsIn path.toList name) :
    ofPath? path = extensions.lookup (String.ofList (Text.lowercase (Path.nameSuffix name))) := by
  have hne : path ≠ "" := by
    rintro rfl
    obtain ⟨⟨-, hnil, -⟩, front, behind, hpath, -⟩ := h
    simp_all
  rw [ofPath?, if_neg hne, Path.suffixOf, Path.lastName_of_endsIn h]

/-- A path that ends in no name has no language. -/
theorem ofPath?_of_forall_not_endsIn {path : String} (h : ∀ name, ¬Path.EndsIn path.toList name) :
    ofPath? path = none := by
  rw [ofPath?, Path.suffixOf, Path.lastName, Path.names_of_forall_not_endsIn h]
  split_ifs <;> rfl

/-- A path is recognised as a file of a language exactly if it ends in a name that is a stem, which
is not empty, with a text behind it that is an extension of the language in lower case. No path at
all counts as an empty one. The directories in front of the name make no difference. -/
theorem ofPath?_eq_some_iff_extension :
    (∀ (path : Option String) (language : Language), ofPath? (path.getD "") = some language ↔
      ∃ text stem ending, path = some text ∧ Path.EndsIn text.toList (stem ++ ending) ∧
        stem ≠ [] ∧
        extensions.lookup (String.ofList (Text.lowercase ending)) = some language) ∧
    ∀ (path : String) (name : List Char), Path.EndsIn path.toList name →
      ofPath? path = ofPath? (String.ofList name) := by
  refine ⟨fun path language => ⟨fun h => ?_, ?_⟩, ?_⟩
  · cases path with
    | none => cases h
    | some text =>
    rw [Option.getD_some] at h
    obtain ⟨name, hends⟩ : ∃ name, Path.EndsIn text.toList name := by
      by_contra hnone
      rw [ofPath?_of_forall_not_endsIn (not_exists.mp hnone)] at h
      cases h
    rw [ofPath?_of_endsIn hends] at h
    have hsuffix : Path.nameSuffix name ≠ [] := by
      intro hnil
      rw [hnil] at h
      cases h
    obtain ⟨stem, hname, hstem⟩ := Path.exists_stem hsuffix
    exact ⟨text, stem, Path.nameSuffix name, rfl, hname ▸ hends, hstem, h⟩
  · rintro ⟨text, stem, ending, rfl, hends, hstem, hlookup⟩
    obtain ⟨letters, rfl, hletters, hdot⟩ := exists_dotted_of_lookup hlookup
    rw [Option.getD_some, ofPath?_of_endsIn hends, Path.nameSuffix_append_dot hdot,
      if_neg (not_or.mpr ⟨hstem, hletters⟩)]
    exact hlookup
  · intro path name hends
    have hself : Path.EndsIn (String.ofList name).toList name := by
      rw [String.toList_ofList]
      exact ⟨hends.1, [], [], by simp, Or.inl rfl, .nil⟩
    rw [ofPath?_of_endsIn hends, ofPath?_of_endsIn hself]

/-- A path with a directory that looks like a file, a name with two dots, and more behind it. -/
theorem ofPath?_eq_some_iff_extension_two_dots :
    Path.EndsIn "/a.py/../Main.tar.Cc//./".toList "Main.tar.Cc".toList ∧
      ofPath? "/a.py/../Main.tar.Cc//./" = some .cpp ∧
      ofPath? "/a.py/../Main.tar.Cc//./" = ofPath? "Main.tar.Cc" := by
  have hends : Path.EndsIn "/a.py/../Main.tar.Cc//./".toList "Main.tar.Cc".toList :=
    ⟨by decide, "/a.py/../".toList, ['/', '/', '.', '/'], by decide,
      Or.inr ⟨"/a.py/..".toList, by decide⟩, .slash (.dot (.slash .nil))⟩
  obtain ⟨hiff, hdirectories⟩ := ofPath?_eq_some_iff_extension
  refine ⟨hends, ?_, ?_⟩
  · exact (hiff (some _) .cpp).mpr
      ⟨_, "Main.tar".toList, ".Cc".toList, rfl, hends, by decide, by decide⟩
  · exact hdirectories _ _ hends

end Language

end OrderOfGrowth
