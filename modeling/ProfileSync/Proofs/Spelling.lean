/-
  Two spellings of a path from the working directory: with a dot and a slash at its
  front, and without.

  * `pathNames_dotted`: the names in both are the same but for the dot;
  * `FileSystem.locate_dotted`: both lead to the same place, if neither is empty or too
    long;
  * `validateFile_dotted`: so a profile is judged alike however its name is spelled, if
    it names a source file;
  * `validateFile_dotted_without_source`: if it names none, it is not.
-/
import ProfileSync.Proofs.Sources

namespace ProfileSync

/-- A path with the working directory put before it. -/
def dotted (path : String) : String := "./" ++ path

/-! ## Look-up -/

theorem toList_dotted (path : String) : (dotted path).toList = '.' :: '/' :: path.toList := by
  rw [dotted, String.toList_append]
  rfl

theorem utf8ByteSize_dotted (path : String) :
    (dotted path).utf8ByteSize = path.utf8ByteSize + 2 := by
  rw [dotted, String.utf8ByteSize_append, Nat.add_comm]
  rfl

theorem dotted_ne_empty (path : String) : dotted path ≠ "" := by
  intro h
  have hlist := congrArg String.toList h
  rw [toList_dotted] at hlist
  cases hlist

/-- The dot is the first name, and the others stay. -/
theorem pathNames_dotted (path : String) : pathNames (dotted path) = "." :: pathNames path := by
  have hparts : partsAtSlashes (dotted path).toList = ['.'] :: partsAtSlashes path.toList := by
    rw [toList_dotted]
    exact partsAtSlashes_append_slash ['.'] path.toList
  have hlast : (['.'] :: partsAtSlashes path.toList).getLast? =
      (partsAtSlashes path.toList).getLast? := by
    obtain ⟨part, parts, hcons⟩ := List.exists_cons_of_ne_nil (partsAtSlashes_ne_nil path.toList)
    rw [hcons, List.getLast?_cons_cons]
  simp only [pathNames, hparts, hlast]
  split <;> rfl

/-- A path that is not empty and does not start at the root begins with a name. -/
theorem exists_pathNames_of_relative {path : String} (hempty : path ≠ "")
    (hrelative : path.toList.head? ≠ some '/') :
    ∃ first rest, pathNames path = first :: rest ∧ first ≠ "" := by
  have hne : path.toList ≠ [] := by simpa using hempty
  obtain ⟨c, cs, hcons⟩ := List.exists_cons_of_ne_nil hne
  have hc : c ≠ '/' := by
    rintro rfl
    exact hrelative (by rw [hcons]; rfl)
  obtain ⟨part, parts, hparts⟩ := List.exists_cons_of_ne_nil (partsAtSlashes_ne_nil cs)
  have hfirst : String.ofList (c :: part) ≠ "" := by
    intro h
    have hlist := congrArg String.toList h
    simp at hlist
  simp only [pathNames, hcons, partsAtSlashes, if_neg hc, hparts]
  split
  · exact ⟨_, _, rfl, hfirst⟩
  · exact ⟨_, _, rfl, hfirst⟩

/-- A path that is as good to look up with the dot before it: it starts at the root,
    where no dot is put before it, or the dot does not make it too long. -/
def FitsDotted (path : String) : Prop :=
  path.toList.head? = some '/' ∨ path.utf8ByteSize + 2 ≤ maxPathLength ∨
    maxPathLength < path.utf8ByteSize

instance (path : String) : Decidable (FitsDotted path) := inferInstanceAs (Decidable (_ ∨ _ ∨ _))

namespace FileSystem

variable {fs : FileSystem} {path : String}

/-- A dot before a name changes nothing: both are looked up in the same directory. -/
theorem follow_dot_cons {here : Location} {first : String} {rest : List String}
    (h : first ≠ "") : fs.follow here ("." :: first :: rest) = fs.follow here (first :: rest) := by
  cases hsearch : fs.refusal? here .search with
  | none => exact follow_dot hsearch
  | some why => rw [follow_of_refused (by decide) hsearch, follow_of_refused h hsearch]

/-- Names are followed from the working directory as if the dot were not there. -/
theorem locateFrom_dotted (hempty : path ≠ "") (hrelative : path.toList.head? ≠ some '/')
    (links : Nat) :
    fs.locateFrom true links (pathStart fs.workingDirectory (dotted path))
        (pathNames (dotted path)) =
      fs.locateFrom true links (pathStart fs.workingDirectory path) (pathNames path) := by
  have hstart : pathStart fs.workingDirectory (dotted path) = fs.workingDirectory := by
    rw [pathStart, toList_dotted]
    rfl
  obtain ⟨first, rest, hnames, hfirst⟩ := exists_pathNames_of_relative hempty hrelative
  rw [pathNames_dotted, hstart, pathStart, if_neg hrelative, hnames]
  exact locateFrom_congr (follow_dot_cons hfirst) links

/-- **Both spellings** of a path lead to the same. -/
theorem locate_dotted (hempty : path ≠ "") (hrelative : path.toList.head? ≠ some '/')
    (hfits : FitsDotted path) : fs.locate true (dotted path) = fs.locate true path := by
  have hnull : '\x00' ∈ (dotted path).toList ↔ '\x00' ∈ path.toList := by
    simp [toList_dotted]
  by_cases h : '\x00' ∈ path.toList
  · rw [locate_of_null hempty h, locate_of_null (dotted_ne_empty path) (hnull.2 h)]
  rcases hfits with habsolute | hlength | hlong
  · exact absurd habsolute hrelative
  · have hlength' : (dotted path).utf8ByteSize ≤ maxPathLength := by
      rwa [utf8ByteSize_dotted]
    rw [locate_eq hempty h (by omega), locate_eq (dotted_ne_empty path) (mt hnull.1 h) hlength',
      locateFrom_dotted hempty hrelative]
  · have hlong' : maxPathLength < (dotted path).utf8ByteSize := by
      rw [utf8ByteSize_dotted]
      omega
    rw [locate_of_long h hlong, locate_of_long (mt hnull.1 h) hlong']

theorem find_congr {path' : String} (h : fs.locate true path' = fs.locate true path) :
    fs.find path' = fs.find path := by
  rw [find, find, h]

theorem readText_congr {path' : String} (h : fs.locate true path' = fs.locate true path) :
    fs.readText path' = fs.readText path := by
  rw [readText, readText, openEntry, openEntry, h]

theorem readText_of_locate_eq_error {fault : FileFault} (h : fs.locate true path = .error fault) :
    fs.readText path = .error fault := by
  rw [readText, openEntry, h]

theorem pathNames_name {name : String} (h : ValidName name) : pathNames name = [name] := by
  have hne : name.toList ≠ [] := h.toList_ne_nil
  simp [pathNames, partsAtSlashes_of_no_slash h.no_slash, hne]

/-- A single name that the dot makes too long a path is too long a name without it.
    So the same is read in both of its spellings, or nothing in either. -/
theorem readText_dotted_name (fs : FileSystem) {name : String} (h : ValidName name) :
    fs.readText (dotted name) = fs.readText name ∨
      (∃ fault, fs.readText (dotted name) = .error fault) ∧
        ∃ fault, fs.readText name = .error fault := by
  have hrelative : name.toList.head? ≠ some '/' := fun hc => h.no_slash (List.mem_of_head? hc)
  by_cases hfits : FitsDotted name
  · exact .inl (readText_congr (locate_dotted h.ne_empty hrelative hfits))
  obtain ⟨-, hdotted, hlength⟩ : _ ∧ _ ∧ _ := by simpa [FitsDotted] using hfits
  have hnull : '\x00' ∈ (dotted name).toList ↔ '\x00' ∈ name.toList := by simp [toList_dotted]
  by_cases hn : '\x00' ∈ name.toList
  · exact .inl (readText_congr (by rw [locate_of_null h.ne_empty hn,
      locate_of_null (dotted_ne_empty name) (hnull.2 hn)]))
  have hlong : maxPathLength < (dotted name).utf8ByteSize := by
    rw [utf8ByteSize_dotted]
    exact hdotted
  have hname : maxNameLength < name.utf8ByteSize := by
    simp only [maxNameLength, maxPathLength] at hdotted ⊢
    omega
  obtain ⟨fault, hfault⟩ : ∃ fault, fs.locate true name = .error fault := by
    rw [locate_eq h.ne_empty hn hlength, pathNames_name h]
    generalize pathStart fs.workingDirectory name = here
    cases hsearch : fs.refusal? here .search with
    | some why =>
      exact ⟨_, locateFrom_of_follow_eq_error (follow_of_refused h.ne_empty hsearch) maxLinks⟩
    | none => exact ⟨_, locateFrom_of_follow_eq_error (follow_of_long hsearch hname) maxLinks⟩
  exact .inr ⟨⟨_, readText_of_locate_eq_error (locate_of_long (mt hnull.1 hn) hlong)⟩,
    _, readText_of_locate_eq_error hfault⟩

/-- If a name leads to something, then the working directory is one. -/
theorem find_workingDirectory {name : String} {e : Entry} (h : ValidName name)
    (hfind : fs.find name = .ok e) : ∃ entries, fs.find (dotted "") = .ok (.directory entries) := by
  obtain ⟨-, n, l, -, hfollows, -⟩ := find_eq_ok_iff.1 hfind
  have hstart : pathStart fs.workingDirectory name = fs.workingDirectory :=
    if_neg fun hc => h.no_slash (List.mem_of_head? hc)
  rw [pathNames_name h, hstart] at hfollows
  obtain ⟨hsearch, e', hat⟩ : fs.refusal? fs.workingDirectory .search = none ∧
      ∃ e', fs.root.at? (fs.workingDirectory ++ [name]) = some e' := by
    cases hfollows with
    | slash => exact absurd rfl h.ne_empty
    | dot => exact absurd rfl h.ne_dot
    | up => exact absurd rfl h.ne_dots
    | directory hname hat => exact ⟨hname.searchable, _, hat⟩
    | file hname hat => exact ⟨hname.searchable, _, hat⟩
    | link hname hat => exact ⟨hname.searchable, _, hat⟩
  rw [Entry.at?_append] at hat
  obtain ⟨directory, hdirectory, hname⟩ := Option.bind_eq_some_iff.1 hat
  cases directory with
  | file text => cases hname
  | link path => cases hname
  | directory entries =>
    have hnames : pathNames (dotted "") = [".", ""] := pathNames_dotted ""
    have hdot : fs.Follows 0 fs.workingDirectory [".", ""] fs.workingDirectory [] :=
      .dot hsearch (.slash .refl)
    refine ⟨entries, find_eq_ok_iff.2 ⟨⟨dotted_ne_empty "", by decide, by decide⟩, 0, _,
      Nat.zero_le _, ?_, hdirectory⟩⟩
    rw [hnames]
    exact hdot

/-- Of a directory there is no text to be read. -/
theorem exists_readText_eq_error_of_directory {entries : List (String × Entry)}
    (h : fs.find path = .ok (.directory entries)) : ∃ fault, fs.readText path = .error fault := by
  rw [readText]
  cases hopen : fs.openEntry path with
  | error fault => exact ⟨fault, rfl⟩
  | ok e =>
    cases (find_of_openEntry hopen).symm.trans h
    exact ⟨_, rfl⟩

end FileSystem

/-! ## The directory of a profile -/

section
variable {name : String}

/-- Nothing but a slash and what comes before it is left when a name is taken away. -/
theorem parentPath?_of_name (h : ValidName name) {path : String} {front : List Char}
    (hpath : path.toList = front ++ name.toList) (hfront : front = [] ∨ ∃ cs, front = cs ++ ['/']) :
    parentPath? path = some (String.ofList (trimmedEnd front.reverse).reverse) := by
  have hne : name.toList ≠ [] := h.toList_ne_nil
  have hslash : '/' ∉ name.toList := h.no_slash
  have htrimmed : trimmedEnd path.toList.reverse = name.toList.reverse ++ front.reverse := by
    rw [hpath, List.reverse_append, trimmedEnd_name h]
  have hname : ∀ c ∈ name.toList.reverse, (c != '/') = true := fun c hc => by
    simpa using fun heq : c = '/' => hslash (heq ▸ List.mem_reverse.1 hc)
  have hdrop : front.reverse.dropWhile (· != '/') = front.reverse := by
    rcases hfront with rfl | ⟨cs, rfl⟩ <;> simp
  have hnot : ¬ (name.toList.reverse ++ front.reverse = [] ∨
      name.toList.reverse ++ front.reverse = ['/']) := by
    rintro (hnil | hroot)
    · simp [hne] at hnil
    · obtain ⟨c, cs, hcons⟩ := List.exists_cons_of_ne_nil (by simpa using hne :
        name.toList.reverse ≠ [])
      rw [hcons] at hroot hname
      have hc := hname c List.mem_cons_self
      rw [(List.cons.inj hroot).1] at hc
      exact absurd hc (by decide)
  simp only [parentPath?, htrimmed, if_neg hnot, List.dropWhile_append_of_pos hname, hdrop]

/-- The directory of a profile given by its name alone is not written at all. -/
theorem profileDirectory_name (h : ValidName name) : profileDirectory name = "" := by
  rw [profileDirectory, parentPath?_of_name h (List.nil_append _).symm (.inl rfl)]
  rfl

theorem profileDirectory_dotted (h : ValidName name) : profileDirectory (dotted name) = "." := by
  have hfront : (dotted name).toList = ['.', '/'] ++ name.toList := toList_dotted name
  rw [profileDirectory, parentPath?_of_name h hfront (.inr ⟨['.'], rfl⟩)]
  rfl

/-- A path that a profile gives is looked up as it is given. -/
theorem joinPath_empty (path : String) : joinPath "" path = path := by
  simp [joinPath]

theorem joinPath_dot {path : String} (h : path.toList.head? ≠ some '/') :
    joinPath "." path = dotted path := by
  rw [joinPath, if_neg h, if_neg (by decide)]
  rfl

theorem joinPath_absolute {path : String} (h : path.toList.head? = some '/') (directory : String) :
    joinPath directory path = path := by
  rw [joinPath, if_pos h]

end

/-! ## Kinds of failures -/

/-- What kind of failure something is, whatever the paths, places and texts in it. -/
inductive FailureKind where
  | unreadableProfile
  | invalidProfile
  | missingSource
  | unreadableTest
  | invalidTest
  | mismatch
  | walk
  | config
  | pattern
deriving DecidableEq

/-- The kind of a failure. -/
def Failure.kind : Failure → FailureKind
  | unreadableProfile .. => .unreadableProfile
  | invalidProfile .. => .invalidProfile
  | missingSource .. => .missingSource
  | unreadableTest .. => .unreadableTest
  | invalidTest .. => .invalidTest
  | mismatch .. => .mismatch
  | walk .. => .walk
  | config .. => .config
  | pattern .. => .pattern

/-- A verdict: whether there is a result, and the kind of the failure if not. -/
def verdictOf {α : Type} (r : Except Failure α) : Except FailureKind α := r.mapError Failure.kind

section
variable {fs : FileSystem} {name : String} {p : Profile}

/-! ## The steps of a validation -/

/-- A path that a profile gives leads to the same in both spellings of the profile. -/
theorem locate_given {path : String} (hempty : path ≠ "") (hfits : FitsDotted path) :
    fs.locate true (joinPath "." path) = fs.locate true (joinPath "" path) := by
  by_cases habsolute : path.toList.head? = some '/'
  · rw [joinPath_absolute habsolute, joinPath_absolute habsolute]
  · rw [joinPath_dot habsolute, joinPath_empty, FileSystem.locate_dotted hempty habsolute hfits]

theorem verdictOf_loadProfile (fs : FileSystem) (h : ValidName name) :
    verdictOf (loadProfile fs (dotted name)) = verdictOf (loadProfile fs name) := by
  unfold loadProfile
  rcases FileSystem.readText_dotted_name fs h with heq | ⟨⟨fault, hread⟩, fault', hread'⟩
  · rw [heq]
    cases fs.readText name with
    | error fault => rfl
    | ok text =>
      dsimp only
      cases Profile.ofText text <;> rfl
  · rw [hread, hread']
    rfl

theorem loadProfile_dotted (h : ValidName name) (hload : loadProfile fs name = .ok p) :
    loadProfile fs (dotted name) = .ok p := by
  have hverdict := verdictOf_loadProfile fs h
  rw [hload] at hverdict
  cases hdotted : loadProfile fs (dotted name) with
  | error e => rw [hdotted] at hverdict; cases hverdict
  | ok q => rw [hdotted] at hverdict; cases hverdict; rfl

theorem exists_find_of_load {path : String} (h : loadProfile fs path = .ok p) :
    ∃ e, fs.find path = .ok e := by
  unfold loadProfile FileSystem.readText at h
  cases hopen : fs.openEntry path with
  | error fault => rw [hopen] at h; cases h
  | ok e => exact ⟨e, FileSystem.find_of_openEntry hopen⟩

theorem result_of_load_error {path : String} {e : Failure} (h : loadProfile fs path = .error e) :
    (validateFile fs path).result = .error e := by
  rw [result_validateFile, checkProfile, h, Logged.bind_of_error rfl]

/-- Of a test file only what stands in it decides. -/
theorem verdictOf_readTestFile {path path' : String} (h : fs.readText path' = fs.readText path) :
    verdictOf (readTestFile fs path').result = verdictOf (readTestFile fs path).result := by
  unfold readTestFile
  rw [h]
  cases fs.readText path with
  | error fault => rfl
  | ok text =>
    dsimp only
    cases testFunctions? text <;> rfl

/-- What a profile is compared with is there, or is missed, in both spellings. -/
theorem verdictOf_testFile (h : ValidName name) (hload : loadProfile fs name = .ok p)
    (hfits : FitsDotted p.test) :
    verdictOf (readTestFile fs (testOf (dotted name) p)).result =
      verdictOf (readTestFile fs (testOf name p)).result := by
  rw [testOf, testOf, profileDirectory_dotted h, profileDirectory_name h]
  by_cases hempty : p.test = ""
  · -- without a test file one spelling looks for nothing, and the other finds a directory
    obtain ⟨e, he⟩ := exists_find_of_load hload
    obtain ⟨entries, hfind⟩ := FileSystem.find_workingDirectory h he
    obtain ⟨fault, hdirectory⟩ : ∃ fault, fs.readText (joinPath "." "") = .error fault := by
      rw [joinPath_dot (by decide)]
      exact FileSystem.exists_readText_eq_error_of_directory hfind
    have hnothing : fs.readText (joinPath "" "") = .error .notFound := rfl
    rw [hempty, readTestFile, readTestFile, hdirectory, hnothing]
    rfl
  · exact verdictOf_readTestFile (FileSystem.readText_congr (locate_given hempty hfits))

/-- What is left of a validation once the profile has been loaded and its source file
    has been looked for. -/
theorem verdictOf_validateFile {path : String} (hload : loadProfile fs path = .ok p)
    (hfind : fs.find (sourceOf path p) ≠ .error .notFound) :
    verdictOf (validateFile fs path).result =
      (verdictOf (readTestFile fs (testOf path p)).result).bind fun d =>
        (validate p d).mapError fun _ => FailureKind.mismatch := by
  rw [result_validateFile, result_checkProfile hload hfind]
  cases (readTestFile fs (testOf path p)).result with
  | error e => rfl
  | ok d =>
    dsimp only [Except.bind, verdictOf, Except.mapError]
    cases validate p d <;> rfl

theorem verdictOf_of_missing {path : String} (hload : loadProfile fs path = .ok p)
    (hfind : fs.find (sourceOf path p) = .error .notFound) :
    (validateFile fs path).result = .error (.missingSource (sourceOf path p) path) := by
  rw [result_validateFile, checkProfile_of_missing hload hfind]

end

/-! ## Both spellings of a profile -/

/-- **A profile is judged alike** by its name and by its name with the working
    directory before it, if it names a source file and the paths that it gives are not
    made too long: it passes by both, or fails in the same way.  If it names no source
    file, then its name alone is always rejected for that, and the other spelling
    never is. -/
theorem validateFile_dotted (fs : FileSystem) {name : String} (hname : ValidName name) :
    ((∀ p, loadProfile fs name = .ok p →
        p.source ≠ "" ∧ FitsDotted p.source ∧ FitsDotted p.test) →
      verdictOf (validateFile fs (dotted name)).result =
        verdictOf (validateFile fs name).result) ∧
    ∀ p, loadProfile fs name = .ok p → p.source = "" →
      verdictOf (validateFile fs name).result = .error .missingSource ∧
        verdictOf (validateFile fs (dotted name)).result ≠ .error .missingSource := by
  constructor
  · intro hgiven
    cases hload : loadProfile fs name with
    | error e =>
      have hverdict := verdictOf_loadProfile fs hname
      rw [hload] at hverdict
      cases hdotted : loadProfile fs (dotted name) with
      | ok p => rw [hdotted] at hverdict; cases hverdict
      | error e' =>
        rw [hdotted] at hverdict
        rw [result_of_load_error hload, result_of_load_error hdotted]
        exact congrArg Except.error (Except.error.inj hverdict)
    | ok p =>
      obtain ⟨hempty, hsource, htest⟩ := hgiven p hload
      have hload' := loadProfile_dotted hname hload
      have hfind : fs.find (sourceOf (dotted name) p) = fs.find (sourceOf name p) := by
        rw [sourceOf, sourceOf, profileDirectory_dotted hname, profileDirectory_name hname]
        exact FileSystem.find_congr (locate_given hempty hsource)
      by_cases hmissing : fs.find (sourceOf name p) = .error .notFound
      · rw [verdictOf_of_missing hload hmissing, verdictOf_of_missing hload' (hfind.trans hmissing)]
        rfl
      · rw [verdictOf_validateFile hload hmissing,
          verdictOf_validateFile hload' (hfind ▸ hmissing), verdictOf_testFile hname hload htest]
  · intro p hload hempty
    have hload' := loadProfile_dotted hname hload
    obtain ⟨e, he⟩ := exists_find_of_load hload
    obtain ⟨entries, hdirectory⟩ := FileSystem.find_workingDirectory hname he
    have hnothing : fs.find (sourceOf name p) = .error .notFound := by
      rw [sourceOf, profileDirectory_name hname, hempty]
      rfl
    have hthere : fs.find (sourceOf (dotted name) p) = .ok (.directory entries) := by
      rw [sourceOf, profileDirectory_dotted hname, hempty, joinPath_dot (by decide), hdirectory]
    refine ⟨by rw [verdictOf_of_missing hload hnothing]; rfl, fun hmissing => ?_⟩
    cases hresult : (validateFile fs (dotted name)).result with
    | ok u => rw [hresult] at hmissing; cases hmissing
    | error failure =>
      rw [hresult] at hmissing
      cases failure with
      | missingSource source profile =>
        rw [result_validateFile] at hresult
        have hfind := find_of_missingSource hload' hresult
        rw [hthere] at hfind
        cases hfind
      | _ => cases hmissing

/-- A profile with a test file, in a directory that is the working directory. -/
def withReferences (text : String) : FileSystem :=
  ⟨.directory [("tests.rs", .file (some "fn TestA() {}")), ("a_utprofile.yml", .file (some text))],
    [], []⟩

/-- A profile without a test file is rejected for that in both spellings, though one
    looks for nothing and the other for a directory. -/
theorem validateFile_dotted_without_test :
    let fs := withReferences "source: tests.rs\n"
    ValidName "a_utprofile.yml" ∧
    (∀ p, loadProfile fs "a_utprofile.yml" = .ok p →
      p.source ≠ "" ∧ FitsDotted p.source ∧ FitsDotted p.test) ∧
    (validateFile fs "a_utprofile.yml").result = .error (.unreadableTest "" .notFound) ∧
    verdictOf (validateFile fs "./a_utprofile.yml").result = .error .unreadableTest := by
  intro fs
  have hname : ValidName "a_utprofile.yml" := by decide
  have hgiven : ∀ p, loadProfile fs "a_utprofile.yml" = .ok p →
      p.source ≠ "" ∧ FitsDotted p.source ∧ FitsDotted p.test := by
    have hload : (loadProfile fs "a_utprofile.yml").map (fun p => (p.source, p.test)) =
        .ok ("tests.rs", "") := by decide +kernel
    intro p hp
    rw [hp] at hload
    obtain ⟨hsource, htest⟩ := Prod.mk.inj (Except.ok.inj hload)
    rw [hsource, htest]
    decide
  have hbare : (validateFile fs "a_utprofile.yml").result =
      .error (.unreadableTest "" .notFound) := by decide +kernel
  refine ⟨hname, hgiven, hbare, ?_⟩
  have hsame := (validateFile_dotted fs hname).1 hgiven
  rw [hbare] at hsame
  exact hsame

/-- **A profile without a source file** is rejected by its name, and passes with the
    working directory before it. -/
theorem validateFile_dotted_without_source :
    let fs := withReferences "test: tests.rs\ncases:\n- name: A\n"
    verdictOf (validateFile fs "a_utprofile.yml").result = .error .missingSource ∧
      (validateFile fs "./a_utprofile.yml").result = .ok () := by
  decide +kernel

end ProfileSync
