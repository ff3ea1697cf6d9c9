/-
  How paths are looked up.

  * `FileSystem.Follows`: names lead from one place to another, through a number of
    links;
  * `FileSystem.Stops`: at a place the names that are left lead no further, for one
    reason or another;
  * `FileSystem.locateFrom_eq_iff`: a look-up follows names until it stops;
  * `FileSystem.LeadsTo` and `FileSystem.Blocked`: a path leads to an entry, or its
    look-up is broken off before it is known whether it does;
  * `FileSystem.find_eq_ok_iff`, `FileSystem.blocked_iff` and
    `FileSystem.find_eq_notFound_iff`: what the answer to a look-up tells.
-/
import ProfileSync.Proofs.Files

namespace ProfileSync

namespace FileSystem

/-! ## Following names -/

/-- A name that is looked up in the directory at a place. -/
structure IsLookedUp (fs : FileSystem) (here : Location) (name : String) : Prop where
  searchable : fs.refusal? here .search = none
  ne_empty : name ≠ ""
  ne_dot : name ≠ "."
  ne_dots : name ≠ ".."
  length : name.utf8ByteSize ≤ maxNameLength

/-- Names lead from the directory at one place to another place, where some of them
    are left, through a number of links.  A link puts the names of its own path
    before the others. -/
inductive Follows (fs : FileSystem) : Nat → Location → List String → Location → List String → Prop
  | refl {here names} : Follows fs 0 here names here names
  | slash {links here rest place left} : Follows fs links here rest place left →
      Follows fs links here ("" :: rest) place left
  | dot {links here rest place left} : fs.refusal? here .search = none →
      Follows fs links here rest place left → Follows fs links here ("." :: rest) place left
  | up {links here rest place left} : fs.refusal? here .search = none →
      Follows fs links here.dropLast rest place left →
      Follows fs links here (".." :: rest) place left
  | directory {links here name rest place left entries} : fs.IsLookedUp here name →
      fs.root.at? (here ++ [name]) = some (.directory entries) →
      Follows fs links (here ++ [name]) rest place left →
      Follows fs links here (name :: rest) place left
  | file {here name text} : fs.IsLookedUp here name →
      fs.root.at? (here ++ [name]) = some (.file text) →
      Follows fs 0 here [name] (here ++ [name]) []
  | link {links here name rest place left path} : fs.IsLookedUp here name →
      fs.root.at? (here ++ [name]) = some (.link path) →
      Follows fs links (pathStart here path) (pathNames path ++ rest) place left →
      Follows fs (links + 1) here (name :: rest) place left

/-- Names that are left at a place lead no further, if a number of links may still be
    followed. -/
inductive Stops (fs : FileSystem) : Nat → Location → List String → Except FileFault Location → Prop
  | arrived {links here} : Stops fs links here [] (.ok here)
  | refused {links here name rest why} : name ≠ "" → fs.refusal? here .search = some why →
      Stops fs links here (name :: rest) (.error (.refused why))
  | missing {links here name rest} : fs.IsLookedUp here name →
      fs.root.at? (here ++ [name]) = none →
      Stops fs links here (name :: rest) (.error .notFound)
  | file {links here name rest text} : fs.IsLookedUp here name →
      fs.root.at? (here ++ [name]) = some (.file text) → rest ≠ [] →
      Stops fs links here (name :: rest) (.error .notDirectory)
  | long {links here name rest} : fs.refusal? here .search = none →
      maxNameLength < name.utf8ByteSize →
      Stops fs links here (name :: rest) (.error .nameTooLong)
  | links {here name rest path} : fs.IsLookedUp here name →
      fs.root.at? (here ++ [name]) = some (.link path) →
      Stops fs 0 here (name :: rest) (.error .tooManyLinks)

variable {fs : FileSystem} {links : Nat} {here place : Location} {names left : List String}

/-! ## The next name -/

/-- A look-up depends on how far names lead up to the first link. -/
theorem locateFrom_congr {here' : Location} {names' : List String}
    (h : fs.follow here names = fs.follow here' names') (links : Nat) :
    fs.locateFrom true links here names = fs.locateFrom true links here' names' := by
  unfold locateFrom
  rw [h]

theorem locateFrom_of_follow_eq_error {fault : FileFault}
    (h : fs.follow here names = .error fault) (links : Nat) :
    fs.locateFrom true links here names = .error fault := by
  unfold locateFrom
  rw [h]

theorem locateFrom_of_follow_eq_entry (h : fs.follow here names = .ok (.entry place))
    (links : Nat) : fs.locateFrom true links here names = .ok place := by
  unfold locateFrom
  rw [h]

section
variable {name : String} {rest : List String}

theorem follow_slash : fs.follow here ("" :: rest) = fs.follow here rest := by
  rw [follow, if_pos rfl]

theorem follow_of_refused {why : Refusal} (hempty : name ≠ "")
    (h : fs.refusal? here .search = some why) :
    fs.follow here (name :: rest) = .error (.refused why) := by
  rw [follow, if_neg hempty, h]

theorem follow_dot (h : fs.refusal? here .search = none) :
    fs.follow here ("." :: rest) = fs.follow here rest := by
  simp [follow, h]

theorem follow_dots (h : fs.refusal? here .search = none) :
    fs.follow here (".." :: rest) = fs.follow here.dropLast rest := by
  simp [follow, h]

theorem follow_of_long (h : fs.refusal? here .search = none)
    (hlong : maxNameLength < name.utf8ByteSize) :
    fs.follow here (name :: rest) = .error .nameTooLong := by
  have hne : ∀ short : String, short.utf8ByteSize ≤ maxNameLength → name ≠ short := by
    rintro short hshort rfl
    exact absurd hlong (Nat.not_lt.2 hshort)
  simp [follow, h, hlong, hne "" (by decide), hne "." (by decide), hne ".." (by decide)]

variable (h : fs.IsLookedUp here name)
include h

theorem follow_of_missing (hat : fs.root.at? (here ++ [name]) = none) :
    fs.follow here (name :: rest) = .error .notFound := by
  simp [follow, h.searchable, h.ne_empty, h.ne_dot, h.ne_dots, Nat.not_lt.2 h.length, hat]

theorem follow_of_directory {entries : List (String × Entry)}
    (hat : fs.root.at? (here ++ [name]) = some (.directory entries)) :
    fs.follow here (name :: rest) = fs.follow (here ++ [name]) rest := by
  simp [follow, h.searchable, h.ne_empty, h.ne_dot, h.ne_dots, Nat.not_lt.2 h.length, hat]

theorem follow_of_file {text : Option String}
    (hat : fs.root.at? (here ++ [name]) = some (.file text)) :
    fs.follow here (name :: rest) =
      if rest.isEmpty then .ok (.entry (here ++ [name])) else .error .notDirectory := by
  simp only [follow, h.searchable, h.ne_empty, h.ne_dot, h.ne_dots, Nat.not_lt.2 h.length, hat,
    if_false]

theorem follow_of_link {path : String} (hat : fs.root.at? (here ++ [name]) = some (.link path)) :
    fs.follow here (name :: rest) = .ok (.link here name path rest) := by
  simp [follow, h.searchable, h.ne_empty, h.ne_dot, h.ne_dots, Nat.not_lt.2 h.length, hat]

theorem locateFrom_link {path : String} (hat : fs.root.at? (here ++ [name]) = some (.link path))
    (links : Nat) : fs.locateFrom true (links + 1) here (name :: rest) =
      fs.locateFrom true links (pathStart here path) (pathNames path ++ rest) := by
  rw [locateFrom, follow_of_link h hat]
  rfl

end

/-! ## Following and stopping -/

/-- **To follow names** is what a look-up does until it stops. -/
theorem locateFrom_of_follows {n : Nat} (h : fs.Follows n here names place left)
    (links : Nat) :
    fs.locateFrom true (links + n) here names = fs.locateFrom true links place left := by
  induction h with
  | refl => rfl
  | slash _ ih =>
    rw [← ih]
    exact locateFrom_congr follow_slash _
  | dot hsearch _ ih =>
    rw [← ih]
    exact locateFrom_congr (follow_dot hsearch) _
  | up hsearch _ ih =>
    rw [← ih]
    exact locateFrom_congr (follow_dots hsearch) _
  | directory hname hat _ ih =>
    rw [← ih]
    exact locateFrom_congr (follow_of_directory hname hat) _
  | file hname hat => exact locateFrom_congr (follow_of_file hname hat) _
  | link hname hat _ ih => rw [← ih, ← Nat.add_assoc, locateFrom_link hname hat]

theorem locateFrom_of_stops {answer : Except FileFault Location}
    (h : fs.Stops links here names answer) : fs.locateFrom true links here names = answer := by
  cases h with
  | arrived => exact locateFrom_of_follow_eq_entry rfl links
  | refused hempty hrefused =>
    exact locateFrom_of_follow_eq_error (follow_of_refused hempty hrefused) links
  | missing hname hat => exact locateFrom_of_follow_eq_error (follow_of_missing hname hat) links
  | file hname hat hrest =>
    refine locateFrom_of_follow_eq_error ?_ links
    rw [follow_of_file hname hat, if_neg (by simpa using hrest)]
  | long hsearch hlong =>
    exact locateFrom_of_follow_eq_error (follow_of_long hsearch hlong) links
  | links hname hat =>
    rw [locateFrom, follow_of_link hname hat]
    rfl

/-- Names are followed until they stop, within as many links as may be followed. -/
theorem exists_stops (fs : FileSystem) (links : Nat) (here : Location) (names : List String) :
    ∃ n place left answer, n ≤ links ∧ fs.Follows n here names place left ∧
      fs.Stops (links - n) place left answer := by
  -- a link may lead to more names, but it leaves fewer links
  induction links using Nat.strong_induction_on generalizing here names with
  | h links ihlinks => ?_
  induction names generalizing here with
  | nil => exact ⟨0, here, [], _, Nat.zero_le _, .refl, .arrived⟩
  | cons name rest ih =>
    by_cases hempty : name = ""
    · subst hempty
      obtain ⟨n, place, left, answer, hn, hfollows, hstops⟩ := ih here
      exact ⟨n, place, left, answer, hn, .slash hfollows, hstops⟩
    rcases hsearch : fs.refusal? here .search with _ | why
    case some =>
      exact ⟨0, here, name :: rest, _, Nat.zero_le _, .refl, .refused hempty hsearch⟩
    by_cases hdot : name = "."
    · subst hdot
      obtain ⟨n, place, left, answer, hn, hfollows, hstops⟩ := ih here
      exact ⟨n, place, left, answer, hn, .dot hsearch hfollows, hstops⟩
    by_cases hdots : name = ".."
    · subst hdots
      obtain ⟨n, place, left, answer, hn, hfollows, hstops⟩ := ih here.dropLast
      exact ⟨n, place, left, answer, hn, .up hsearch hfollows, hstops⟩
    by_cases hlong : maxNameLength < name.utf8ByteSize
    · exact ⟨0, here, name :: rest, _, Nat.zero_le _, .refl, .long hsearch hlong⟩
    have hname : fs.IsLookedUp here name :=
      ⟨hsearch, hempty, hdot, hdots, Nat.not_lt.1 hlong⟩
    rcases hat : fs.root.at? (here ++ [name]) with _ | ⟨text⟩ | ⟨path⟩ | ⟨entries⟩
    · exact ⟨0, here, name :: rest, _, Nat.zero_le _, .refl, .missing hname hat⟩
    · by_cases hrest : rest = []
      · subst hrest
        exact ⟨0, here ++ [name], [], _, Nat.zero_le _, .file hname hat, .arrived⟩
      · exact ⟨0, here, name :: rest, _, Nat.zero_le _, .refl, .file hname hat hrest⟩
    · cases links with
      | zero => exact ⟨0, here, name :: rest, _, Nat.zero_le _, .refl, .links hname hat⟩
      | succ links =>
        obtain ⟨n, place, left, answer, hn, hfollows, hstops⟩ :=
          ihlinks links (Nat.lt_succ_self links) (pathStart here path) (pathNames path ++ rest)
        exact ⟨n + 1, place, left, answer, Nat.succ_le_succ hn, .link hname hat hfollows,
          by rwa [Nat.succ_sub_succ]⟩
    · obtain ⟨n, place, left, answer, hn, hfollows, hstops⟩ := ih (here ++ [name])
      exact ⟨n, place, left, answer, hn, .directory hname hat hfollows, hstops⟩

/-- **A look-up** follows names until they lead no further, and answers why. -/
theorem locateFrom_eq_iff {answer : Except FileFault Location} :
    fs.locateFrom true links here names = answer ↔ ∃ n place left, n ≤ links ∧
      fs.Follows n here names place left ∧ fs.Stops (links - n) place left answer := by
  have hanswer : ∀ {n place left answer}, n ≤ links → fs.Follows n here names place left →
      fs.Stops (links - n) place left answer →
        fs.locateFrom true links here names = answer := by
    intro n place left answer hn hfollows hstops
    rw [← Nat.sub_add_cancel hn, locateFrom_of_follows hfollows, locateFrom_of_stops hstops]
  constructor
  · rintro rfl
    obtain ⟨n, place, left, answer, hn, hfollows, hstops⟩ := fs.exists_stops links here names
    rw [hanswer hn hfollows hstops]
    exact ⟨n, place, left, hn, hfollows, hstops⟩
  · rintro ⟨n, place, left, hn, hfollows, hstops⟩
    exact hanswer hn hfollows hstops

/-! ## Paths -/

/-- A path that is looked up name by name. -/
structure IsPath (path : String) : Prop where
  nonempty : path ≠ ""
  no_null : '\x00' ∉ path.toList
  length : path.utf8ByteSize ≤ maxPathLength

/-- A path leads to an entry, through no more links than may be followed. -/
def LeadsTo (fs : FileSystem) (path : String) (e : Entry) : Prop :=
  IsPath path ∧ ∃ n l, n ≤ maxLinks ∧
    fs.Follows n (pathStart fs.workingDirectory path) (pathNames path) l [] ∧
      fs.root.at? l = some e

/-- The look-up of a path is broken off: the path holds a null character or is too
    long, no name may be looked up in a directory on the way, a file is met where
    there should be a directory, a name is too long, or there are too many links. -/
inductive Blocked (fs : FileSystem) (path : String) : Prop
  | null : '\x00' ∈ path.toList → Blocked fs path
  | long : maxPathLength < path.utf8ByteSize → Blocked fs path
  | refused {n place name rest why} : n ≤ maxLinks →
      fs.Follows n (pathStart fs.workingDirectory path) (pathNames path) place (name :: rest) →
      name ≠ "" → fs.refusal? place .search = some why → Blocked fs path
  | file {n place name rest text} : n ≤ maxLinks →
      fs.Follows n (pathStart fs.workingDirectory path) (pathNames path) place (name :: rest) →
      fs.IsLookedUp place name → fs.root.at? (place ++ [name]) = some (.file text) → rest ≠ [] →
      Blocked fs path
  | longName {n place name rest} : n ≤ maxLinks →
      fs.Follows n (pathStart fs.workingDirectory path) (pathNames path) place (name :: rest) →
      fs.refusal? place .search = none → maxNameLength < name.utf8ByteSize → Blocked fs path
  | links {place name rest target} :
      fs.Follows maxLinks (pathStart fs.workingDirectory path) (pathNames path) place
        (name :: rest) →
      fs.IsLookedUp place name → fs.root.at? (place ++ [name]) = some (.link target) →
      Blocked fs path

section
variable {path : String}

theorem locate_cases (fs : FileSystem) (path : String) :
    path = "" ∧ fs.locate true path = .error .notFound ∨
      ('\x00' ∈ path.toList ∧ fs.locate true path = .error .nullInPath) ∨
      (maxPathLength < path.utf8ByteSize ∧ fs.locate true path = .error .nameTooLong) ∨
      (IsPath path ∧ fs.locate true path = fs.locateFrom true maxLinks
        (pathStart fs.workingDirectory path) (pathNames path)) := by
  by_cases hempty : path = ""
  · exact .inl ⟨hempty, by simp [locate, hempty]⟩
  by_cases hnull : '\x00' ∈ path.toList
  · exact .inr (.inl ⟨hnull, locate_of_null hempty hnull⟩)
  by_cases hlong : maxPathLength < path.utf8ByteSize
  · exact .inr (.inr (.inl ⟨hlong, locate_of_long hnull hlong⟩))
  · have hlength := Nat.not_lt.1 hlong
    exact .inr (.inr (.inr ⟨⟨hempty, hnull, hlength⟩, locate_eq hempty hnull hlength⟩))

theorem find_eq_ok_iff {e : Entry} : fs.find path = .ok e ↔ fs.LeadsTo path e := by
  constructor
  · intro h
    obtain ⟨l, hlocate, hat⟩ : ∃ l, fs.locate true path = .ok l ∧ fs.root.at? l = some e := by
      unfold find at h
      split at h
      · cases h
      · rename_i l hlocate
        split at h
        · rename_i hat
          cases h
          exact ⟨l, hlocate, hat⟩
        · cases h
    rcases fs.locate_cases path with ⟨-, hl⟩ | ⟨-, hl⟩ | ⟨-, hl⟩ | ⟨hpath, hl⟩ <;> rw [hlocate] at hl
    · cases hl
    · cases hl
    · cases hl
    · obtain ⟨n, place, left, hn, hfollows, hstops⟩ := locateFrom_eq_iff.1 hl.symm
      generalize maxLinks - n = spare at hstops
      cases hstops with
      | arrived => exact ⟨hpath, n, l, hn, hfollows, hat⟩
  · rintro ⟨hpath, n, l, hn, hfollows, hat⟩
    rw [find, locate_eq hpath.nonempty hpath.no_null hpath.length,
      locateFrom_eq_iff.2 ⟨n, l, [], hn, hfollows, .arrived⟩]
    simp only [hat]

theorem exists_locateFrom_eq_error_of_blocked (h : fs.Blocked path)
    (hnull : '\x00' ∉ path.toList) (hlength : path.utf8ByteSize ≤ maxPathLength) :
    ∃ fault, fault ≠ .notFound ∧ fs.locateFrom true maxLinks
      (pathStart fs.workingDirectory path) (pathNames path) = .error fault := by
  cases h with
  | null h => exact absurd h hnull
  | long h => exact absurd hlength (Nat.not_le.2 h)
  | refused hn hfollows hempty hrefused =>
    exact ⟨.refused _, by simp,
      locateFrom_eq_iff.2 ⟨_, _, _, hn, hfollows, .refused hempty hrefused⟩⟩
  | file hn hfollows hname hat hrest =>
    exact ⟨.notDirectory, by decide,
      locateFrom_eq_iff.2 ⟨_, _, _, hn, hfollows, .file hname hat hrest⟩⟩
  | longName hn hfollows hsearch hlong =>
    exact ⟨.nameTooLong, by decide,
      locateFrom_eq_iff.2 ⟨_, _, _, hn, hfollows, .long hsearch hlong⟩⟩
  | links hfollows hname hat =>
    refine ⟨.tooManyLinks, by decide,
      locateFrom_eq_iff.2 ⟨_, _, _, Nat.le_refl _, hfollows, ?_⟩⟩
    rw [Nat.sub_self]
    exact .links hname hat

/-- A look-up that is broken off answers what broke it off. -/
theorem blocked_iff :
    fs.Blocked path ↔ ∃ fault, fault ≠ .notFound ∧ fs.find path = .error fault := by
  rcases fs.locate_cases path with ⟨rfl, hl⟩ | ⟨hnull, hl⟩ | ⟨hlong, hl⟩ | ⟨hpath, hl⟩
  · -- the empty path is not looked up, and an empty name is what its names would be
    have hnot : ¬ fs.Blocked "" := by
      intro h
      obtain ⟨fault, -, hfault⟩ := exists_locateFrom_eq_error_of_blocked h (by decide) (by decide)
      have hnames : pathNames "" = [""] := by decide
      have hslash : fs.follow (pathStart fs.workingDirectory "") [""] =
          .ok (.entry (pathStart fs.workingDirectory "")) := by
        rw [follow_slash, follow]
      rw [hnames, locateFrom_of_follow_eq_entry hslash] at hfault
      cases hfault
    simp [hnot, find, hl]
  · exact iff_of_true (.null hnull) ⟨.nullInPath, by decide, by rw [find, hl]⟩
  · exact iff_of_true (.long hlong) ⟨.nameTooLong, by decide, by rw [find, hl]⟩
  · constructor
    · intro h
      obtain ⟨fault, hne, hfault⟩ :=
        exists_locateFrom_eq_error_of_blocked h hpath.no_null hpath.length
      exact ⟨fault, hne, by rw [find, hl, hfault]⟩
    · rintro ⟨fault, hne, hfind⟩
      have hfault : fs.locate true path = .error fault := by
        unfold find at hfind
        split at hfind
        · rename_i hlocate
          cases hfind
          exact hlocate
        · split at hfind
          · cases hfind
          · exact absurd (Except.error.inj hfind).symm hne
      obtain ⟨n, place, left, hn, hfollows, hstops⟩ := locateFrom_eq_iff.1 (hl.symm.trans hfault)
      generalize hspare : maxLinks - n = spare at hstops
      cases hstops with
      | missing => exact absurd rfl hne
      | refused hempty hrefused => exact .refused hn hfollows hempty hrefused
      | file hname hat hrest => exact .file hn hfollows hname hat hrest
      | long hsearch hlong => exact .longName hn hfollows hsearch hlong
      | links hname hat =>
        have hall : n = maxLinks := by omega
        subst hall
        exact .links hfollows hname hat

/-- **Nothing is found** if the look-up is not broken off and the path leads to
    nothing. -/
theorem find_eq_notFound_iff : fs.find path = .error .notFound ↔
    ¬ fs.Blocked path ∧ ¬ ∃ e, fs.LeadsTo path e := by
  rw [blocked_iff]
  simp only [← find_eq_ok_iff]
  cases fs.find path with
  | ok e => simp
  | error fault => simp

end

end FileSystem

end ProfileSync
