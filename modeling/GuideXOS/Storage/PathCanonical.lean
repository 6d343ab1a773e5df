import GuideXOS.Lib.Words
import GuideXOS.Storage.MountTable

/-!
# `PathCanonical` — what is normal about a normalised path

`normalize` answers the absolute path of the names that a path leads to (`normalize_accepted`), or nothing where it
refuses. That answer is canonical: its names are settled, it is its own normalised path, and a root that another path
does not escape is a prefix of its names. One limit is checked of the path that comes in only: a relative path gets
longer, and may get longer than `maxPathLength` (`Overlong`).
-/

namespace GuideXOS.Storage
open Lib.Paths Core PathResolver

variable {resolver : PathResolver} {path currentDir : Text} {names : List Text}

/-! ## Where a path leads -/

/-- The path as an absolute one. -/
def working (path currentDir : Text) : Text := if isAbsolute path then path else join currentDir path

/-- The names a path leads to. -/
def leadsTo (path currentDir : Text) : List Text := settle dot dotDot [] (split (working path currentDir))

/-- What `normalize` demands of the path, and of the current directory in front of it. -/
structure Accepted (resolver : PathResolver) (path currentDir : Text) : Prop where
  nonempty : path ≠ []
  clean : (0 : UInt8) ∉ path
  short : path.length ≤ resolver.options.maxPathLength.toNat
  components : ∀ name ∈ split (working path currentDir),
    (0 : UInt8) ∉ name ∧ (name = dotDot → resolver.options.allowParentRefs = true)
  shallow : (leadsTo path currentDir).length ≤ resolver.options.maxDepth.toNat

theorem settled_leadsTo (path currentDir : Text) : Settled (leadsTo path currentDir) := settled_pointNames _

/-! ## The loop -/

theorem zero_not_mem_dot : (0 : UInt8) ∉ dot := by decide

theorem zero_not_mem_dotDot : (0 : UInt8) ∉ dotDot := by decide

theorem isValidComponent_iff {component : Text} (h : component ≠ []) :
    isValidComponent component = true ↔ (0 : UInt8) ∉ component := by
  simp [isValidComponent, h]

/-- **The loop** settles the names, if none of them is refused. -/
theorem processComponents_eq (options : ValidationOptions) {path : List Text} (stack : List Text)
    (hpath : ∀ name ∈ path, name ≠ []) :
    processComponents options stack path =
      if ∀ name ∈ path, (0 : UInt8) ∉ name ∧ (name = dotDot → options.allowParentRefs = true) then
        some (settle dot dotDot stack path)
      else none := by
  induction path generalizing stack with
  | nil => exact (if_pos (List.forall_mem_nil _)).symm
  | cons name path ih =>
      obtain ⟨hname, hrest⟩ := List.forall_mem_cons.mp hpath
      rw [processComponents, settle]
      simp only [List.forall_mem_cons]
      by_cases hdot : name = dot
      · have hne : dot ≠ dotDot := by decide
        subst hdot
        rw [if_pos (.inr rfl), if_pos rfl, ih stack hrest]
        simp only [zero_not_mem_dot, not_false_eq_true, hne, false_implies, and_self, true_and]
      · rw [if_neg (by simp [hname, hdot]), if_neg hdot]
        by_cases hdotDot : name = dotDot
        · subst hdotDot
          rw [if_pos rfl, if_pos rfl, ih _ hrest]
          cases hallow : options.allowParentRefs <;> simp [zero_not_mem_dotDot]
        · rw [if_neg hdotDot, if_neg hdotDot, ih _ hrest]
          by_cases hvalid : (0 : UInt8) ∈ name
          · have hrefused : ¬ isValidComponent name = true := by
              rw [isValidComponent_iff hname]
              exact not_not.mpr hvalid
            rw [if_neg hrefused, if_neg (by simp [hvalid])]
          · rw [if_pos ((isValidComponent_iff hname).mpr hvalid)]
            simp [hvalid, hdotDot]

/-! ## The answer -/

theorem split_ne_nil {name : Text} (h : name ∈ split (working path currentDir)) : name ≠ [] :=
  (isName_of_mem_names name h).1

theorem normalize_accepted (h : Accepted resolver path currentDir) :
    resolver.normalize path currentDir = absolute slash (leadsTo path currentDir) := by
  have hclean : ¬ containsMaliciousChars path = true := by simpa [containsMaliciousChars] using h.clean
  unfold PathResolver.normalize
  rw [if_neg h.nonempty, if_neg hclean, if_neg (Nat.not_lt.mpr h.short), ← working,
    processComponents_eq _ _ fun name => split_ne_nil, if_pos h.components]
  dsimp only
  rw [← leadsTo, if_neg (Nat.not_lt.mpr h.shallow), build_eq]

theorem normalize_refused (h : ¬ Accepted resolver path currentDir) : resolver.normalize path currentDir = [] := by
  unfold PathResolver.normalize
  split
  · rfl
  rename_i hnonempty
  split
  · rfl
  rename_i hclean
  split
  · rfl
  rename_i hshort
  rw [← working, processComponents_eq _ _ fun name => split_ne_nil]
  split
  · rfl
  rename_i normalized hsome
  split at hsome
  case isFalse => cases hsome
  case isTrue hcomponents =>
    obtain rfl := Option.some.inj hsome
    split
    · rfl
    rename_i hshallow
    refine absurd ⟨hnonempty, ?_, Nat.not_lt.mp hshort, hcomponents, Nat.not_lt.mp hshallow⟩ h
    simpa [containsMaliciousChars] using hclean

theorem accepted_of_normalize (h : resolver.normalize path currentDir ≠ []) : Accepted resolver path currentDir := by
  by_contra hrefused
  exact h (normalize_refused hrefused)

/-- The path that is answered would be longer than any path is allowed to be. -/
def Overlong (resolver : PathResolver) (path currentDir : Text) : Prop :=
  Accepted resolver path currentDir ∧
    resolver.options.maxPathLength.toNat < (absolute slash (leadsTo path currentDir)).length

/-! ## Canonical answers -/

theorem isAbsolute_absolute (names : List Text) : isAbsolute (absolute slash names) = true := by
  cases names with
  | nil => rfl
  | cons name names => rfl

theorem zero_not_mem_absolute (h : ∀ name ∈ names, (0 : UInt8) ∉ name) : (0 : UInt8) ∉ absolute slash names := by
  unfold absolute
  split
  · decide
  · intro hmem
    obtain ⟨name, hname, hzero⟩ := List.mem_flatMap.mp hmem
    rcases List.mem_cons.mp hzero with hslash | hzero
    · exact absurd hslash (by decide)
    · exact h name hname hzero

/-- **Again.** A canonical path that is not too long leads to itself, from anywhere. -/
theorem normalize_absolute (hsettled : Settled names) (hclean : ∀ name ∈ names, (0 : UInt8) ∉ name)
    (hdepth : names.length ≤ resolver.options.maxDepth.toNat)
    (hlength : (absolute slash names).length ≤ resolver.options.maxPathLength.toNat) (currentDir : Text) :
    resolver.normalize (absolute slash names) currentDir = absolute slash names := by
  have hworking : working (absolute slash names) currentDir = absolute slash names := if_pos (isAbsolute_absolute names)
  have hsplit : split (working (absolute slash names) currentDir) = names := by
    rw [hworking]
    exact names_absolute hsettled.isName
  have hleads : leadsTo (absolute slash names) currentDir = names := by
    rw [leadsTo, hsplit, settle_of_settled fun name hname => (hsettled name hname).2]
    rfl
  have haccepted : Accepted resolver (absolute slash names) currentDir := by
    refine ⟨absolute_ne_nil names, zero_not_mem_absolute hclean, hlength, ?_, by rwa [hleads]⟩
    intro name hname
    rw [hsplit] at hname
    exact ⟨hclean name hname, fun h => absurd h (hsettled name hname).2.2⟩
  rw [normalize_accepted haccepted, hleads]

/-- The names an accepted path leads to are names of the path. -/
theorem zero_not_mem_leadsTo (h : Accepted resolver path currentDir) :
    ∀ name ∈ leadsTo path currentDir, (0 : UInt8) ∉ name := by
  intro name hname
  rcases mem_settle hname with hstack | hpath
  · cases hstack
  · exact (h.components name hpath.1).1

/-! ## Escaping a root -/

/-- Text compared as the code compares it, for paths of names. -/
theorem escapes_iff {root : List Text} (hnames : ∀ name ∈ names, IsName slash name)
    (hroot : ∀ name ∈ root, IsName slash name) :
    ((absolute slash names).take (absolute slash root).length = absolute slash root ∧
      ((absolute slash root).length < (absolute slash names).length → absolute slash root ≠ [slash] →
        (absolute slash names)[(absolute slash root).length]? = some slash)) ↔ root <+: names := by
  by_cases hempty : root = []
  · subst hempty
    refine iff_of_true ⟨?_, fun _ h => absurd rfl h⟩ List.nil_prefix
    cases names with
    | nil => rfl
    | cons name names => rfl
  · have hne : absolute slash root ≠ [slash] := fun h => hempty ((absolute_eq_slash hroot).mp h)
    have hwritten : absolute slash root = written slash root := if_neg hempty
    simp only [hne, ne_eq, not_false_eq_true, true_implies]
    rw [← goesOn_iff, hwritten]
    by_cases hnil : names = []
    · subst hnil
      rw [List.prefix_nil]
      refine iff_of_false ?_ hempty
      have hlong := one_lt_length_written hroot hempty
      rintro (heq | ⟨rest, heq⟩)
      · rw [← heq] at hlong
        exact absurd hlong (by decide)
      · have hlength := congrArg List.length heq
        simp only [absolute, if_true, List.length_append, List.length_nil, List.length_cons] at hlength
        omega
    · have hpath : absolute slash names = written slash names := if_neg hnil
      rw [hpath]
      exact prefix_iff hroot hnames

/-- **The text comparison is about components**, for all paths and roots. -/
theorem escapesRoot_iff (resolver : PathResolver) (path root : Text) :
    resolver.escapesRoot path root = false ↔
      resolver.normalize path [slash] ≠ [] ∧ resolver.normalize root [slash] ≠ [] ∧
        split (resolver.normalize root [slash]) <+: split (resolver.normalize path [slash]) := by
  unfold escapesRoot
  dsimp only
  split
  case isTrue hempty =>
    refine iff_of_false nofun ?_
    rintro ⟨hpath, hroot, -⟩
    exact hempty.elim hpath hroot
  case isFalse hnonempty =>
    obtain ⟨hpath, hroot⟩ := not_or.mp hnonempty
    have hsplit : ∀ names : List Text, Settled names → split (absolute slash names) = names :=
      fun names hnames => names_absolute hnames.isName
    rw [normalize_accepted (accepted_of_normalize hpath), normalize_accepted (accepted_of_normalize hroot),
      hsplit _ (settled_leadsTo _ _), hsplit _ (settled_leadsTo _ _),
      ← escapes_iff (settled_leadsTo _ _).isName (settled_leadsTo _ _).isName]
    generalize absolute slash (leadsTo path [slash]) = text
    generalize hroot : absolute slash (leadsTo root [slash]) = rootText
    have hroot_ne : rootText ≠ [] := hroot ▸ absolute_ne_nil _
    by_cases htake : text.take rootText.length = rootText
    · have hle : ¬ text.length < rootText.length := by
        have hlength := congrArg List.length htake
        rw [List.length_take] at hlength
        omega
      have htext : text ≠ [] := by
        rintro rfl
        exact hroot_ne (by rw [← htake, List.take_nil])
      rw [if_neg hle, if_neg (not_not.mpr htake), decide_eq_false_iff_not]
      simp only [htake, true_and, htext, hroot_ne, not_false_eq_true, ne_eq, not_and, not_not]
    · refine iff_of_false ?_ fun h => htake h.2.2.1
      split <;> nofun

/-! ## The law -/

/-- What is normal about the answer for a path, and about a root it is held against. -/
structure Canonical (resolver : PathResolver) (path currentDir root : Text) : Prop where
  shape : resolver.normalize path currentDir = [] ∨
    ∃ names, resolver.normalize path currentDir = absolute slash names ∧ Settled names ∧
      names.length ≤ resolver.options.maxDepth.toNat ∧
      (resolver.normalize path currentDir).length ≤ resolver.options.maxPathLength.toNat
  stable : resolver.normalize path currentDir ≠ [] → ∀ currentDir',
    resolver.normalize (resolver.normalize path currentDir) currentDir' = resolver.normalize path currentDir
  parents : resolver.options.allowParentRefs = false → dotDot ∈ split path → resolver.normalize path currentDir = []
  contained : resolver.escapesRoot path root = false ↔
    resolver.normalize path [slash] ≠ [] ∧ resolver.normalize root [slash] ≠ [] ∧
      split (resolver.normalize root [slash]) <+: split (resolver.normalize path [slash])

/-- The components of a path are components of the path made absolute. -/
theorem split_subset_working (path currentDir : Text) : ∀ name ∈ split path, name ∈ split (working path currentDir) := by
  intro name hname
  have happend : ∀ base : Text, name ∈ split (base ++ slash :: path) := by
    intro base
    rw [split, names, namesAfter_append_sep]
    exact List.mem_append_right _ hname
  unfold working
  split
  case isTrue => exact hname
  case isFalse hrelative =>
    unfold join
    rw [if_neg hrelative]
    split
    · exact hname
    · split
      · rename_i hempty
        rw [hempty] at hname
        cases hname
      · split
        · rename_i hslash
          obtain ⟨init, hinit⟩ := List.getLast?_eq_some_iff.mp hslash
          rw [hinit, List.append_assoc]
          exact happend init
        · rw [List.append_assoc]
          exact happend currentDir

/-- **Path normalisation** is canonical exactly where the answer does not get too long. -/
theorem normalize_canonical_iff (resolver : PathResolver) (path currentDir root : Text) :
    Canonical resolver path currentDir root ↔ ¬ Overlong resolver path currentDir := by
  constructor
  · rintro hcanonical ⟨haccepted, hlong⟩
    rcases hcanonical.shape with hempty | ⟨names, hnames, -, -, hlength⟩
    · rw [normalize_accepted haccepted] at hempty
      exact absolute_ne_nil _ hempty
    · rw [normalize_accepted haccepted] at hlength
      exact absurd hlong (Nat.not_lt.mpr hlength)
  · intro hfits
    refine ⟨?_, ?_, ?_, escapesRoot_iff resolver path root⟩
    · by_cases haccepted : Accepted resolver path currentDir
      · have hlength := Nat.not_lt.mp fun hlong => hfits ⟨haccepted, hlong⟩
        rw [← normalize_accepted haccepted] at hlength
        exact .inr ⟨_, normalize_accepted haccepted, settled_leadsTo _ _, haccepted.shallow, hlength⟩
      · exact .inl (normalize_refused haccepted)
    · intro hne currentDir'
      have haccepted := accepted_of_normalize hne
      have hlength := Nat.not_lt.mp fun hlong => hfits ⟨haccepted, hlong⟩
      rw [normalize_accepted haccepted]
      exact normalize_absolute (settled_leadsTo _ _) (zero_not_mem_leadsTo haccepted) haccepted.shallow hlength _
    · intro hforbidden hparent
      refine normalize_refused fun haccepted => ?_
      have hallowed := (haccepted.components dotDot (split_subset_working path currentDir _ hparent)).2 rfl
      rw [hforbidden] at hallowed
      cases hallowed

/-- One letter, where one is all that is allowed: the slash in front of it makes two. -/
theorem normalize_overlong : ¬ ∀ resolver path currentDir root, Canonical resolver path currentDir root := by
  intro h
  have hlong := (h ⟨{ maxPathLength := 1 }⟩ (text "a") [slash] [slash]).shape
  have hnormalize : PathResolver.normalize ⟨{ maxPathLength := 1 }⟩ (text "a") [slash] = text "/a" := by decide
  rw [hnormalize] at hlong
  rcases hlong with hempty | ⟨names, -, -, -, hlength⟩
  · exact absurd hempty (by decide)
  · exact absurd hlength (by decide)

end GuideXOS.Storage
