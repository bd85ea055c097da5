import FunctionChain.Files.Path
import FunctionChain.Proofs.Text.Cutting
import Mathlib.Data.List.Basic

/-!
# Cleaned paths

A cleaned path is a list of names with slashes between them, and the list is told by the path. Some
`..` may stand at its beginning if it is not rooted, and after them only names that lead downwards
(`IsClean`). Such a path is its own cleaned form, so one more name that is joined to it stands
behind its names (`join_name`).
-/

namespace FunctionChain

namespace Path

/-! ## Names -/

/-- A slash cuts a path into the names before it and those after it. -/
theorem names_append (s t : Bytes) : names (s ++ slash :: t) = names s ++ names t :=
  Bytes.splitOn_append s t

/-- A path without a slash is one name. -/
theorem names_of_no_slash {name : Bytes} (h : slash ∉ name) : names name = [name] :=
  Bytes.splitOn_of_not_mem h

/-- A name that leads downwards. -/
structure IsPlain (name : Bytes) : Prop where
  notEmpty : name ≠ []
  notSame : name ≠ same
  notUp : name ≠ up

/-- The names of a cleaned path: some that lead upwards, unless it is rooted, and then only names
that lead downwards. -/
def IsClean (rooted : Bool) (names : List Bytes) : Prop :=
  ∃ k below, names = List.replicate k up ++ below ∧ (rooted = true → k = 0) ∧
    ∀ name ∈ below, IsPlain name

/-- No name of a clean path is empty. -/
theorem IsClean.ne_nil {rooted : Bool} {names : List Bytes} (h : IsClean rooted names)
    {name : Bytes}
    (hmem : name ∈ names) : name ≠ [] := by
  obtain ⟨k, below, rfl, -, hbelow⟩ := h
  rcases List.mem_append.1 hmem with hup | hmem
  · rw [List.eq_of_mem_replicate hup]
    decide
  · exact (hbelow name hmem).notEmpty

/-- A clean path stays clean with one more plain name. -/
theorem IsClean.concat {rooted : Bool} {names : List Bytes} (h : IsClean rooted names)
    {name : Bytes}
    (hname : IsPlain name) : IsClean rooted (names ++ [name]) := by
  obtain ⟨k, below, rfl, hrooted, hbelow⟩ := h
  refine ⟨k, below ++ [name], List.append_assoc _ _ _, hrooted, ?_⟩
  rw [List.forall_mem_append, List.forall_mem_singleton]
  exact ⟨hbelow, hname⟩

/-! ## Cleaning -/

/-- A plain name is put on top. -/
theorem push_plain {name : Bytes} (h : IsPlain name) (rooted : Bool) (stack : List Bytes) :
    push rooted stack name = name :: stack := by
  simp [push, h.notEmpty, h.notSame, h.notUp]

/-- An empty name counts for nothing. -/
theorem push_empty (rooted : Bool) (stack : List Bytes) : push rooted stack [] = stack := rfl

/-- The name of the same directory counts for nothing. -/
theorem push_same (rooted : Bool) (stack : List Bytes) : push rooted stack same = stack := rfl

/-- A step up is kept above another one. -/
theorem push_up_up (rooted : Bool) (rest : List Bytes) :
    push rooted (up :: rest) up = up :: up :: rest := rfl

/-- A step up takes a name away. -/
theorem push_up_cons {last : Bytes} (h : last ≠ up) (rooted : Bool) (rest : List Bytes) :
    push rooted (last :: rest) up = rest := by
  have hlast : (last == up) = false := beq_eq_false_iff_ne.2 h
  have hsame : (up.isEmpty || up == same) = false := by decide
  simp [push, hlast, hsame]

/-- A name that leads upwards leaves cleaned names clean: it cancels the last one, unless that leads
upwards too or there is none. -/
theorem isClean_push_up {rooted : Bool} {stack : List Bytes} (h : IsClean rooted stack.reverse) :
    IsClean rooted (push rooted stack up).reverse := by
  obtain ⟨k, below, hstack, hrooted, hbelow⟩ := h
  have hstack : stack = below.reverse ++ List.replicate k up := by
    rw [← List.reverse_reverse stack, hstack]
    simp
  rcases List.eq_nil_or_concat below with rfl | ⟨init, last, rfl⟩
  · rw [List.reverse_nil, List.nil_append] at hstack
    cases k with
    | zero =>
      subst hstack
      cases rooted with
      | true => exact ⟨0, [], rfl, fun _ => rfl, nofun⟩
      | false => exact ⟨1, [], rfl, nofun, nofun⟩
    | succ k =>
      have hnot : ¬ rooted = true := fun hr => absurd (hrooted hr) (Nat.succ_ne_zero k)
      refine ⟨k + 2, [], ?_, fun hr => absurd hr hnot, nofun⟩
      rw [hstack, List.replicate_succ, push_up_up, ← List.replicate_succ, ← List.replicate_succ,
        List.reverse_replicate, List.append_nil]
  · rw [List.concat_eq_append] at hbelow hstack
    rw [List.forall_mem_append, List.forall_mem_singleton] at hbelow
    refine ⟨k, init, ?_, hrooted, hbelow.1⟩
    rw [hstack, List.reverse_append, List.reverse_singleton, List.singleton_append,
      List.cons_append,
      push_up_cons hbelow.2.notUp]
    simp

/-- One more name leaves cleaned names clean. -/
theorem isClean_push {rooted : Bool} {stack : List Bytes} (h : IsClean rooted stack.reverse)
    (name : Bytes) : IsClean rooted (push rooted stack name).reverse := by
  by_cases hempty : name = []
  · rwa [hempty, push_empty]
  by_cases hsame : name = same
  · rwa [hsame, push_same]
  by_cases hup : name = up
  · rw [hup]
    exact isClean_push_up h
  · have hname : IsPlain name := ⟨hempty, hsame, hup⟩
    rw [push_plain hname, List.reverse_cons]
    exact h.concat hname

/-- Cleaning leaves clean names. -/
theorem isClean_cleanNames (rooted : Bool) (names : List Bytes) :
    IsClean rooted (cleanNames rooted names) := by
  suffices h : ∀ stack, IsClean rooted stack.reverse →
      IsClean rooted (names.foldl (push rooted) stack).reverse from
    h [] ⟨0, [], rfl, fun _ => rfl, nofun⟩
  induction names with
  | nil => exact fun _ h => h
  | cons name rest ih => exact fun stack h => ih _ (isClean_push h name)

/-- Plain names are all put on top. -/
theorem foldl_push_plain {names : List Bytes} (h : ∀ name ∈ names, IsPlain name) (rooted : Bool)
    (stack : List Bytes) : names.foldl (push rooted) stack = names.reverse ++ stack := by
  induction names generalizing stack with
  | nil => rfl
  | cons name rest ih =>
    rw [List.forall_mem_cons] at h
    rw [List.foldl_cons, push_plain h.1, ih h.2]
    simp

/-- Steps up from nothing are all kept. -/
theorem foldl_push_up (k : Nat) :
    (List.replicate k up).foldl (push false) [] = List.replicate k up := by
  induction k with
  | zero => rfl
  | succ k ih =>
    rw [List.replicate_succ', List.foldl_append, ih]
    cases k with
    | zero => rfl
    | succ k => simp [List.replicate_succ, push_up_up, ← List.replicate_succ']

/-- Clean names are their own cleaned form. -/
theorem IsClean.cleanNames_eq {rooted : Bool} {names : List Bytes} (h : IsClean rooted names) :
    cleanNames rooted names = names := by
  obtain ⟨k, below, rfl, hrooted, hbelow⟩ := h
  have hups : (List.replicate k up).foldl (push rooted) [] = List.replicate k up := by
    cases rooted with
    | true => rw [hrooted rfl]; rfl
    | false => exact foldl_push_up k
  rw [cleanNames, List.foldl_append, hups, foldl_push_plain hbelow]
  simp

/-- Plain names at the end stay there when what is before them is cleaned. -/
theorem cleanNames_append {rooted : Bool} {names more : List Bytes}
    (h : ∀ name ∈ more, IsPlain name) :
    cleanNames rooted (names ++ more) = cleanNames rooted names ++ more := by
  simp [cleanNames, foldl_push_plain h]

/-- An empty name in front is cleaned away. -/
theorem cleanNames_cons_empty (rooted : Bool) (names : List Bytes) :
    cleanNames rooted ([] :: names) = cleanNames rooted names := rfl

/-! ## Cleaned paths -/

/-- Whether a path is rooted is told by its beginning. -/
theorem isRooted_append {path : Bytes} (h : path ≠ []) (rest : Bytes) :
    isRooted (path ++ rest) = isRooted path := by
  cases path with
  | nil => exact absurd rfl h
  | cons b path => rfl

/-- Names that a path may have: clean ones without slashes. -/
structure AreNames (rooted : Bool) (names : List Bytes) : Prop where
  clean : IsClean rooted names
  noSlash : ∀ name ∈ names, slash ∉ name

/-- A name on the stack was pushed, or was there before. -/
theorem mem_push {rooted : Bool} {stack : List Bytes} {name other : Bytes}
    (h : other ∈ push rooted stack name) : other = name ∨ other ∈ stack := by
  by_cases hempty : name = []
  · rw [hempty, push_empty] at h
    exact .inr h
  by_cases hsame : name = same
  · rw [hsame, push_same] at h
    exact .inr h
  by_cases hup : name = up
  · subst hup
    cases stack with
    | nil => cases rooted <;> simp_all [push, same, up]
    | cons last rest =>
      by_cases hlast : last = up
      · rw [hlast, push_up_up] at h
        rw [hlast]
        simpa using h
      · rw [push_up_cons hlast] at h
        exact .inr (List.mem_cons_of_mem _ h)
  · rw [push_plain ⟨hempty, hsame, hup⟩] at h
    exact List.mem_cons.1 h

/-- Cleaning leaves no new names. -/
theorem mem_of_mem_cleanNames {rooted : Bool} {names : List Bytes} {name : Bytes}
    (h : name ∈ cleanNames rooted names) : name ∈ names := by
  suffices hfold : ∀ stack, name ∈ names.foldl (push rooted) stack →
      name ∈ stack ∨ name ∈ names from
    (hfold [] (List.mem_reverse.1 h)).resolve_left (List.not_mem_nil)
  clear h
  induction names with
  | nil => exact fun _ h => .inl h
  | cons first rest ih =>
    intro stack h
    rcases ih _ h with h | h
    · exact (mem_push h).elim (fun heq => .inr (by simp [heq])) .inl
    · exact .inr (List.mem_cons_of_mem _ h)

/-- Cleaned names are names, without slashes. -/
theorem areNames_cleanNames (rooted : Bool) (path : Bytes) :
    AreNames rooted (cleanNames rooted (names path)) :=
  ⟨isClean_cleanNames rooted _, fun _ hmem =>
    Bytes.not_mem_of_mem_splitOn (mem_of_mem_cleanNames hmem)⟩

/-- Names stay names with one more plain one. -/
theorem AreNames.concat {rooted : Bool} {names : List Bytes} (h : AreNames rooted names)
    {name : Bytes} (hname : IsPlain name) (hslash : slash ∉ name) :
    AreNames rooted (names ++ [name]) := by
  refine ⟨h.clean.concat hname, ?_⟩
  rw [List.forall_mem_append, List.forall_mem_singleton]
  exact ⟨h.noSlash, hslash⟩

section OfNames

variable {rooted : Bool} {list : List Bytes} (h : AreNames rooted list)
include h

/-- Names that are joined are the names of what they make. -/
theorem names_joined (hne : list ≠ []) : names (Bytes.joined [slash] list) = list :=
  Bytes.splitOn_joined hne h.noSlash

/-- A path of names is rooted if it was made so. -/
theorem isRooted_ofNames : isRooted (ofNames rooted list) = rooted := by
  cases rooted with
  | true => rfl
  | false =>
    cases list with
    | nil => rfl
    | cons first rest =>
      have hfirst := h.clean.ne_nil (List.mem_cons_self ..)
      have hslash := h.noSlash first (List.mem_cons_self ..)
      cases first with
      | nil => exact absurd rfl hfirst
      | cons b name =>
        have hb : ¬ b = slash := fun heq => hslash (by simp [heq])
        simp [ofNames, Bytes.joined, isRooted, hb]

/-- The names of a cleaned path are told by it. -/
theorem cleanNames_ofNames : cleanNames rooted (names (ofNames rooted list)) = list := by
  unfold ofNames
  split
  · have hsplit : names (slash :: Bytes.joined [slash] list)
        = [] :: names (Bytes.joined [slash] list) := names_append [] _
    rw [hsplit, cleanNames_cons_empty]
    by_cases hne : list = []
    · subst hne
      rfl
    · rw [names_joined h hne, h.clean.cleanNames_eq]
  · split
    · next hempty =>
      rw [List.isEmpty_iff.1 hempty, names_of_no_slash (by decide)]
      rfl
    · next hempty =>
      rw [names_joined h (mt List.isEmpty_iff.2 hempty), h.clean.cleanNames_eq]

/-- A path of names is not empty. -/
theorem ofNames_ne_nil : ofNames rooted list ≠ [] := by
  unfold ofNames
  split
  · exact List.cons_ne_nil _ _
  · split
    · exact List.cons_ne_nil _ _
    · next hempty =>
      cases list with
      | nil => exact absurd rfl hempty
      | cons first rest =>
        have hfirst := h.clean.ne_nil (List.mem_cons_self ..)
        simp [Bytes.joined, hfirst]

end OfNames

/-- **Joining.** Names that are joined to a path stand behind the names of its cleaned form. -/
theorem join_names (path : Bytes) {more : List Bytes} (hne : more ≠ [])
    (hplain : ∀ name ∈ more, IsPlain name) (hslash : ∀ name ∈ more, slash ∉ name) :
    join (path :: more)
      = ofNames (isRooted path) (cleanNames (isRooted path) (names path) ++ more) := by
  have hsplit : names (Bytes.joined [slash] more) = more := Bytes.splitOn_joined hne hslash
  have hmore : more.filter (!·.isEmpty) = more := by
    rw [List.filter_eq_self]
    intro name hmem
    simp [(hplain name hmem).notEmpty]
  by_cases hpath : path = []
  · subst hpath
    have hrooted : isRooted (Bytes.joined [slash] more) = false := by
      cases more with
      | nil => exact absurd rfl hne
      | cons first rest =>
        obtain ⟨b, name, hfirst⟩ :=
          List.exists_cons_of_ne_nil (hplain first List.mem_cons_self).notEmpty
        have hb : ¬ b = slash := by
          rintro rfl
          exact hslash first List.mem_cons_self (hfirst ▸ List.mem_cons_self)
        simp [hfirst, Bytes.joined, isRooted, hb]
    have hjoin : join ([] :: more) = clean (Bytes.joined [slash] more) := by
      cases more with
      | nil => exact absurd rfl hne
      | cons first rest => simp [join, hmore]
    have hnil : cleanNames false (names []) = [] := rfl
    have hclean : cleanNames false more = more := @cleanNames_append false [] more hplain
    rw [hjoin, clean, hrooted, hsplit, hclean]
    rfl
  · have hjoin : join (path :: more) = clean (path ++ slash :: Bytes.joined [slash] more) := by
      have hfilter : (path :: more).filter (!·.isEmpty) = path :: more := by simp [hpath, hmore]
      rw [join, hfilter]
      dsimp only
      rw [Bytes.joined_cons hne]
      rfl
    rw [hjoin, clean, isRooted_append hpath, names_append, hsplit, cleanNames_append hplain]

/-- A single name that is joined to a path. -/
theorem join_name (path : Bytes) {name : Bytes} (hname : IsPlain name) (hslash : slash ∉ name) :
    join [path, name]
      = ofNames (isRooted path) (cleanNames (isRooted path) (names path) ++ [name]) :=
  join_names path (List.cons_ne_nil _ _) (List.forall_mem_singleton.2 hname)
    (List.forall_mem_singleton.2 hslash)

/-- A plain name is joined to a path of names as one more. -/
theorem join_ofNames {rooted : Bool} {list : List Bytes} (h : AreNames rooted list) {name : Bytes}
    (hname : IsPlain name) (hslash : slash ∉ name) :
    join [ofNames rooted list, name] = ofNames rooted (list ++ [name]) := by
  rw [join_name _ hname hslash, isRooted_ofNames h, cleanNames_ofNames h]

/-! ## Taking the last name off -/

/-- One more name stands after a slash. -/
theorem ofNames_concat {list : List Bytes} (hne : list ≠ []) (rooted : Bool) (name : Bytes) :
    ofNames rooted (list ++ [name]) = ofNames rooted list ++ slash :: name := by
  have hjoined : Bytes.joined [slash] (list ++ [name])
      = Bytes.joined [slash] list ++ slash :: name := by
    cases list with
    | nil => exact absurd rfl hne
    | cons first rest => simp [Bytes.joined]
  cases rooted <;> simp [ofNames, hjoined, hne]

/-- A path of names is clean. -/
theorem clean_ofNames {rooted : Bool} {list : List Bytes} (h : AreNames rooted list) :
    clean (ofNames rooted list) = ofNames rooted list := by
  rw [clean, isRooted_ofNames h, cleanNames_ofNames h]

/-- A slash at the end of a path means nothing to its cleaned form. -/
theorem clean_concat_slash {path : Bytes} (h : path ≠ []) :
    clean (path ++ [slash]) = clean path := by
  have hnames : cleanNames (isRooted path) (names (path ++ [slash]))
      = cleanNames (isRooted path) (names path) := by
    rw [names_append, cleanNames, List.foldl_append]
    rfl
  rw [clean, isRooted_append h, hnames, clean]

/-- No byte of a name is a slash, from the end either. -/
theorem bne_slash_of_mem_reverse {name : Bytes} (hslash : slash ∉ name) :
    ∀ b ∈ name.reverse, (b != slash) = true :=
  fun _ hb => bne_iff_ne.2 fun heq => hslash (heq ▸ List.mem_reverse.1 hb)

/-- A path ends in its last name, with no slash behind it. -/
theorem dropEndWhile_append {path name : Bytes} (hne : name ≠ []) (hslash : slash ∉ name) :
    Bytes.dropEndWhile (path ++ slash :: name) (· == slash) = path ++ slash :: name := by
  rcases List.eq_nil_or_concat name with rfl | ⟨init, last, rfl⟩
  · exact absurd rfl hne
  · have hlast : (last == slash) = false := by
      rw [beq_eq_false_iff_ne]
      rintro rfl
      simp at hslash
    simp [Bytes.dropEndWhile, hlast]

/-- The last slash stands before the last name. -/
theorem throughLastSlash_append {name : Bytes} (hslash : slash ∉ name) (path : Bytes) :
    throughLastSlash (path ++ slash :: name) = path ++ [slash] := by
  simp [throughLastSlash, List.dropWhile_append_of_pos (bne_slash_of_mem_reverse hslash)]

/-- The parent is what stands before the last name. -/
theorem parent_append {path name : Bytes} (hne : path ≠ []) (hslash : slash ∉ name) :
    parent (path ++ slash :: name) = clean path := by
  rw [parent, throughLastSlash_append hslash, clean_concat_slash hne]

/-- The base is the last name. -/
theorem base_append {path name : Bytes} (hne : name ≠ []) (hslash : slash ∉ name) :
    base (path ++ slash :: name) = name := by
  have hafter : afterLastSlash (path ++ slash :: name) = name := by
    simp [afterLastSlash, List.takeWhile_append_of_pos (bne_slash_of_mem_reverse hslash)]
  simp [base, dropEndWhile_append hne hslash, hafter, hne]

end Path

end FunctionChain
