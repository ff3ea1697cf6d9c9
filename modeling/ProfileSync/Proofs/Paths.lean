/-
  Paths of entries below a directory, and the order of paths.

  * `ValidName`: the names that an entry can have;
  * `pathParts` and `pathBelow`: the names in a path, and the path of an entry
    from its directory and its location;
  * `fileName?_joinPath`: the last name of a path is the one that was put there;
  * `PathBefore`: paths are ordered name by name, names by their bytes;
  * `pathBefore_pathBelow_iff`: for paths below a directory this is the order of
    the locations there, since `nameBytes_lt`: names are ordered by their bytes
    as by their characters.
-/
import Mathlib.Data.List.Lex
import Mathlib.Data.String.Basic
import ProfileSync.Files.Basic
import ProfileSync.Paths

namespace ProfileSync

/-! ## Names -/

/-- What the name of an entry is: no dot, no two dots, and not to be taken
    apart. -/
structure ValidName (name : String) : Prop where
  ne_empty : name ≠ ""
  ne_dot : name ≠ "."
  ne_dots : name ≠ ".."
  no_slash : '/' ∉ name.toList

instance (name : String) : Decidable (ValidName name) :=
  decidable_of_iff (name ≠ "" ∧ name ≠ "." ∧ name ≠ ".." ∧ '/' ∉ name.toList)
    ⟨fun ⟨hempty, hdot, hdots, hslash⟩ => ⟨hempty, hdot, hdots, hslash⟩,
      fun h => ⟨h.ne_empty, h.ne_dot, h.ne_dots, h.no_slash⟩⟩

namespace ValidName

variable {name : String}

theorem toList_ne_nil (h : ValidName name) : name.toList ≠ [] := by
  simpa using h.ne_empty

theorem ofList_ne {cs : List Char} (h : name ≠ String.ofList cs) : name.toList ≠ cs := by
  rintro rfl
  exact h String.ofList_toList.symm

end ValidName

/-! ## The names in a path -/

theorem partsAtSlashes_ne_nil (cs : List Char) : partsAtSlashes cs ≠ [] := by
  cases cs with
  | nil => simp [partsAtSlashes]
  | cons c cs =>
    rw [partsAtSlashes]
    split
    · simp
    · split <;> simp

theorem partsAtSlashes_append_slash (cs ds : List Char) :
    partsAtSlashes (cs ++ '/' :: ds) = partsAtSlashes cs ++ partsAtSlashes ds := by
  induction cs with
  | nil => simp [partsAtSlashes]
  | cons c cs ih =>
    rw [List.cons_append, partsAtSlashes, partsAtSlashes, ih]
    split
    · rfl
    · obtain ⟨part, parts, hparts⟩ := List.exists_cons_of_ne_nil (partsAtSlashes_ne_nil cs)
      rw [hparts]
      rfl

theorem partsAtSlashes_of_no_slash {cs : List Char} (h : '/' ∉ cs) : partsAtSlashes cs = [cs] := by
  induction cs with
  | nil => rfl
  | cons c cs ih =>
    obtain ⟨hc, hcs⟩ := not_or.1 (mt List.mem_cons.2 h)
    rw [partsAtSlashes, if_neg (Ne.symm hc), ih hcs]

/-- The names in a path, as far as something stands between its slashes. -/
def pathParts (path : String) : List String :=
  ((partsAtSlashes path.toList).filter (· != [])).map String.ofList

/-- The path of what stands at a location below a directory. -/
def pathBelow (directory : String) (l : Location) : String := l.foldl joinPath directory

@[simp] theorem pathBelow_nil (directory : String) : pathBelow directory [] = directory := rfl

@[simp] theorem pathBelow_cons (directory name : String) (l : Location) :
    pathBelow directory (name :: l) = pathBelow (joinPath directory name) l := rfl

/-- Before a name that is put at its end, a path is empty or ends with a
    slash. -/
theorem toList_joinPath (directory : String) {name : String} (h : ValidName name) :
    ∃ front, (joinPath directory name).toList = front ++ name.toList ∧
      (front = [] ∨ ∃ cs, front = cs ++ ['/']) ∧
        pathParts (String.ofList front) = pathParts directory := by
  have hhead : name.toList.head? ≠ some '/' := fun hc => h.no_slash (List.mem_of_head? hc)
  rw [joinPath, if_neg hhead]
  by_cases hd : directory.isEmpty
  · have hnil : directory = "" := String.isEmpty_iff.1 hd
    subst hnil
    exact ⟨[], by simp, .inl rfl, rfl⟩
  by_cases hslash : directory.toList.getLast? = some '/'
  · obtain ⟨cs, hcs⟩ := List.getLast?_eq_some_iff.1 hslash
    refine ⟨directory.toList, by simp [hd, hslash], .inr ⟨cs, hcs⟩, ?_⟩
    rw [String.ofList_toList]
  · refine ⟨directory.toList ++ ['/'], by simp [hd, hslash], .inr ⟨_, rfl⟩, ?_⟩
    rw [pathParts, String.toList_ofList, partsAtSlashes_append_slash]
    simp [pathParts, partsAtSlashes]

theorem pathParts_joinPath (directory : String) {name : String} (h : ValidName name) :
    pathParts (joinPath directory name) = pathParts directory ++ [name] := by
  obtain ⟨front, hjoin, hfront, hparts⟩ := toList_joinPath directory h
  have hname : partsAtSlashes name.toList = [name.toList] := partsAtSlashes_of_no_slash h.no_slash
  have hne : name.toList ≠ [] := h.toList_ne_nil
  rw [← hparts, pathParts, pathParts, hjoin, String.toList_ofList]
  rcases hfront with rfl | ⟨cs, rfl⟩
  · simp [hname, hne, partsAtSlashes]
  · rw [List.append_assoc, List.singleton_append, partsAtSlashes_append_slash,
      partsAtSlashes_append_slash, hname]
    simp [partsAtSlashes, hne]

theorem pathParts_pathBelow (directory : String) {l : Location} (h : ∀ name ∈ l, ValidName name) :
    pathParts (pathBelow directory l) = pathParts directory ++ l := by
  induction l generalizing directory with
  | nil => simp
  | cons name l ih =>
    rw [pathBelow_cons, ih _ fun n hn => h n (List.mem_cons_of_mem _ hn),
      pathParts_joinPath directory (h name List.mem_cons_self), List.append_assoc]
    rfl

/-! ## The last name of a path -/

/-- Nothing is left out at the end of a path that ends with a name. -/
theorem trimmedEnd_name {name : String} (h : ValidName name) (rest : List Char) :
    trimmedEnd (name.toList.reverse ++ rest) = name.toList.reverse ++ rest := by
  have hne : name.toList.reverse ≠ [] := by simpa using h.toList_ne_nil
  have hslash : '/' ∉ name.toList.reverse := by simpa using h.no_slash
  have hdot : name.toList.reverse ≠ ['.'] := by
    intro heq
    refine absurd ?_ (ValidName.ofList_ne h.ne_dot)
    simpa using congrArg List.reverse heq
  match hcs : name.toList.reverse with
  | [] => exact absurd hcs hne
  | c :: cs =>
    rw [hcs] at hslash hdot
    obtain ⟨hc, htail⟩ := not_or.1 (mt List.mem_cons.2 hslash)
    rw [List.cons_append]
    refine trimmedEnd.eq_3 _ (fun tail heq => hc (List.cons.inj heq).1.symm) fun tail heq => ?_
    obtain ⟨rfl, hcons⟩ := List.cons.inj heq
    -- a slash after the dot is no part of the name, so the dot would be all of it
    cases cs with
    | nil => exact hdot rfl
    | cons d ds =>
      exact htail (by rw [(List.cons.inj hcons).1]; exact List.mem_cons_self)

theorem fileName?_joinPath (directory : String) {name : String} (h : ValidName name) :
    fileName? (joinPath directory name) = some name := by
  obtain ⟨front, hjoin, hfront, -⟩ := toList_joinPath directory h
  have hrest : front.reverse = [] ∨ ∃ cs, front.reverse = '/' :: cs := by
    rcases hfront with rfl | ⟨cs, rfl⟩
    · exact .inl rfl
    · exact .inr ⟨cs.reverse, by simp⟩
  have hword : ∀ c ∈ name.toList.reverse, (c != '/') = true := by
    intro c hc
    have hmem : c ∈ name.toList := List.mem_reverse.1 hc
    simpa using fun heq : c = '/' => h.no_slash (heq ▸ hmem)
  have hfront : front.reverse.takeWhile (· != '/') = [] := by
    rcases hrest with hr | ⟨cs, hr⟩ <;> simp [hr]
  have hlast : ((trimmedEnd (joinPath directory name).toList.reverse).takeWhile (· != '/')).reverse =
      name.toList := by
    rw [hjoin, List.reverse_append, trimmedEnd_name h, List.takeWhile_append_of_pos hword,
      hfront, List.append_nil, List.reverse_reverse]
  have hdot : name.toList ≠ ['.'] := ValidName.ofList_ne h.ne_dot
  have hdots : name.toList ≠ ['.', '.'] := ValidName.ofList_ne h.ne_dots
  simp [fileName?, hlast, h.toList_ne_nil, hdot, hdots]

/-! ## Bytes -/

/-- The bytes of a character, as numbers. -/
def charBytes (c : Char) : List Nat := (String.utf8EncodeChar c).map UInt8.toNat

/-- The bytes of a name, as numbers. -/
def nameBytes (name : String) : List Nat := name.toByteArray.data.toList.map UInt8.toNat

theorem nameBytes_eq (name : String) : nameBytes name = name.toList.flatMap charBytes := by
  change _ = name.toList.flatMap fun c => (String.utf8EncodeChar c).map UInt8.toNat
  rw [nameBytes, ← String.utf8Encode_toList, List.utf8Encode]
  simp [List.map_flatMap]

/-- Numbers are ordered as their digits to base 64 are, of which the first may
    be any number. -/
theorem lt_sextets {m n : Nat} (h : m < n) :
    m / 262144 < n / 262144 ∨ m / 262144 = n / 262144 ∧ (m / 4096 % 64 < n / 4096 % 64 ∨
      m / 4096 % 64 = n / 4096 % 64 ∧ (m / 64 % 64 < n / 64 % 64 ∨
        m / 64 % 64 = n / 64 % 64 ∧ m % 64 < n % 64)) := by
  have second : ∀ k, k / 64 / 64 = k / 4096 := fun k => by rw [Nat.div_div_eq_div_mul]
  have third : ∀ k, k / 4096 / 64 = k / 262144 := fun k => by rw [Nat.div_div_eq_div_mul]
  have := second m
  have := second n
  have := third m
  have := third n
  omega

/-- The bytes of a character come before those of a later one, whatever follows
    them. -/
theorem charBytes_append_lt {c d : Char} (h : c < d) (as bs : List Nat) :
    charBytes c ++ as < charBytes d ++ bs := by
  have hlt : c.val.toNat < d.val.toNat := h
  have hd : d.val.toNat < 0x110000 := by
    have hvalid := d.valid
    unfold UInt32.isValidChar Nat.isValidChar at hvalid
    omega
  have hdigits := lt_sextets hlt
  unfold charBytes String.utf8EncodeChar
  simp only []
  generalize c.val.toNat = m at *
  generalize d.val.toNat = n at *
  have hm : m / 262144 < 5 := by omega
  have hn : n / 262144 < 5 := by omega
  -- one case for each pair of lengths, of which only those with `m < n` remain
  split_ifs <;>
    simp (disch := omega) only [List.map_cons, List.map_nil, List.cons_append, List.nil_append,
      List.cons_lt_cons_iff, UInt8.toNat_ofNat', Nat.mod_eq_of_lt] <;> omega

theorem flatMap_charBytes_lt {cs ds : List Char} (h : cs < ds) :
    cs.flatMap charBytes < ds.flatMap charBytes := by
  induction cs generalizing ds with
  | nil =>
    cases ds with
    | nil => exact absurd h (lt_irrefl _)
    | cons d ds =>
      have hne : charBytes d ≠ [] := by
        rw [← List.length_pos_iff_ne_nil, charBytes, List.length_map, String.length_utf8EncodeChar]
        exact d.utf8Size_pos
      obtain ⟨b, bs, hbs⟩ := List.exists_cons_of_ne_nil hne
      rw [List.flatMap_nil, List.flatMap_cons, hbs]
      exact List.nil_lt_cons _ _
  | cons c cs ih =>
    cases ds with
    | nil => exact absurd h (List.not_lt_nil _)
    | cons d ds =>
      rw [List.flatMap_cons, List.flatMap_cons]
      rcases List.cons_lt_cons_iff.1 h with hcd | ⟨rfl, hlt⟩
      · exact charBytes_append_lt hcd _ _
      · exact List.append_left_lt (ih hlt)

/-- **Names are ordered by their bytes as by their characters.** -/
theorem nameBytes_lt {a b : String} (h : a < b) : nameBytes a < nameBytes b := by
  rw [nameBytes_eq, nameBytes_eq]
  exact flatMap_charBytes_lt h

/-! ## The order of paths -/

/-- The bytes of the names in a path. -/
def pathBytes (path : String) : List (List Nat) := (pathParts path).map nameBytes

/-- A path comes before another one if it does so at the first name in which
    they differ, or has no further name there. -/
def PathBefore (p q : String) : Prop := pathBytes p < pathBytes q

instance (p q : String) : Decidable (PathBefore p q) :=
  inferInstanceAs (Decidable (pathBytes p < pathBytes q))

theorem PathBefore.irrefl (p : String) : ¬ PathBefore p p := lt_irrefl (pathBytes p)

theorem PathBefore.ne {p q : String} (h : PathBefore p q) : p ≠ q := by
  rintro rfl
  exact PathBefore.irrefl p h

theorem PathBefore.trans {p q r : String} (hpq : PathBefore p q) (hqr : PathBefore q r) :
    PathBefore p r :=
  lt_trans (α := List (List Nat)) hpq hqr

theorem pathBytes_pathBelow (directory : String) {l : Location} (h : ∀ name ∈ l, ValidName name) :
    pathBytes (pathBelow directory l) = pathBytes directory ++ l.map nameBytes := by
  rw [pathBytes, pathParts_pathBelow directory h, List.map_append, pathBytes]

theorem pathBefore_of_lt (directory : String) {l l' : Location} (h : ∀ name ∈ l, ValidName name)
    (h' : ∀ name ∈ l', ValidName name) (hlt : l < l') :
    PathBefore (pathBelow directory l) (pathBelow directory l') := by
  rw [PathBefore, pathBytes_pathBelow directory h, pathBytes_pathBelow directory h']
  exact List.append_left_lt (List.map_lt (fun _ _ => nameBytes_lt) hlt)

/-- **Paths below a directory** are ordered as the locations there are. -/
theorem pathBefore_pathBelow_iff (directory : String) {l l' : Location}
    (h : ∀ name ∈ l, ValidName name) (h' : ∀ name ∈ l', ValidName name) :
    PathBefore (pathBelow directory l) (pathBelow directory l') ↔ l < l' := by
  refine ⟨fun hbefore => ?_, pathBefore_of_lt directory h h'⟩
  rcases lt_trichotomy l l' with hlt | rfl | hgt
  · exact hlt
  · exact absurd hbefore (PathBefore.irrefl _)
  · exact absurd (hbefore.trans (pathBefore_of_lt directory h' h hgt)) (PathBefore.irrefl _)

theorem pathBelow_injective (directory : String) {l l' : Location}
    (h : ∀ name ∈ l, ValidName name) (h' : ∀ name ∈ l', ValidName name)
    (heq : pathBelow directory l = pathBelow directory l') : l = l' := by
  have hparts := congrArg pathParts heq
  rw [pathParts_pathBelow directory h, pathParts_pathBelow directory h'] at hparts
  exact List.append_cancel_left hparts

end ProfileSync
