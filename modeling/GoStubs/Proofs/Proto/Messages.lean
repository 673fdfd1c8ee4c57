import GoStubs.Rpc.MessageTable
/-!
# Messages at every depth

A message is declared in a file or inside another message, to any depth, and goes by the simple
names of the messages around it, from the outermost on, and its own. The dotted paths under which
a file's messages are listed are these names with dots between them, as long as no message is
without a name.

* `DeclaredAt`: which messages are declared, and `HasNames`, that none is nameless.
* `mem_messagePaths_iff`: the paths that a file lists; `mem_messagePaths_iff_namedPart`, if some
  messages have no name.
* `WithinLevels`: how deep messages are declared inside each other.
-/

namespace GoStubs.Proto

/-- Whether messages include, at some depth, a message with the given names: those of the messages
around it, from the outermost on, and its own. -/
inductive DeclaredAt : List Message → List String → Prop where
  | outermost {m : Message} {ms : List Message} (hm : m ∈ ms) : DeclaredAt ms [m.name]
  | inside {m : Message} {ms : List Message} {names : List String} (hm : m ∈ ms)
      (h : DeclaredAt m.nested names) : DeclaredAt ms (m.name :: names)

/-- Whether no message at any depth is without a name. -/
def HasNames (ms : List Message) : Prop := ∀ names, DeclaredAt ms names → "" ∉ names

/-- The dotted path of a message with the given names. -/
def dotted (names : List String) : String := ".".intercalate names

section

variable {m : Message} {ms : List Message} {names : List String} {parent path : String}

theorem DeclaredAt.ne_nil (h : DeclaredAt ms names) : names ≠ [] := by
  cases h <;> simp

theorem declaredAt_nil (names : List String) : ¬ DeclaredAt [] names := by
  intro h
  cases h with
  | outermost hm | inside hm _ => cases hm

theorem declaredAt_cons_iff : DeclaredAt (m :: ms) names ↔
    (names = [m.name] ∨ ∃ inner, DeclaredAt m.nested inner ∧ names = m.name :: inner) ∨
      DeclaredAt ms names := by
  constructor
  · intro h
    cases h with
    | outermost hm =>
      rcases List.mem_cons.mp hm with rfl | hm
      · exact Or.inl (Or.inl rfl)
      · exact Or.inr (.outermost hm)
    | inside hm h =>
      rcases List.mem_cons.mp hm with rfl | hm
      · exact Or.inl (Or.inr ⟨_, h, rfl⟩)
      · exact Or.inr (.inside hm h)
  · rintro ((rfl | ⟨inner, h, rfl⟩) | h)
    · exact .outermost List.mem_cons_self
    · exact .inside List.mem_cons_self h
    · cases h with
      | outermost hm => exact .outermost (List.mem_cons_of_mem _ hm)
      | inside hm h => exact .inside (List.mem_cons_of_mem _ hm) h

/-- The message around a declared one is declared. -/
theorem DeclaredAt.of_concat {outer : List String} (houter : outer ≠ []) {name : String} :
    ∀ {ms : List Message}, DeclaredAt ms (outer ++ [name]) → DeclaredAt ms outer := by
  induction outer with
  | nil => exact absurd rfl houter
  | cons n ns ih =>
    intro ms h
    cases ns with
    | nil =>
      cases h with
      | inside hm _ => exact .outermost hm
    | cons k ks =>
      cases h with
      | inside hm h => exact .inside hm (ih (List.cons_ne_nil k ks) h)

theorem hasNames_nil : HasNames [] := fun names h => absurd h (declaredAt_nil names)

theorem hasNames_cons_iff :
    HasNames (m :: ms) ↔ m.name ≠ "" ∧ HasNames m.nested ∧ HasNames ms := by
  constructor
  · intro h
    refine ⟨fun hname => ?_, fun names hnames hempty => ?_, fun names hnames => ?_⟩
    · exact h _ (.outermost List.mem_cons_self) (by simp [hname])
    · exact h _ (.inside List.mem_cons_self hnames) (List.mem_cons_of_mem _ hempty)
    · exact h names (declaredAt_cons_iff.mpr (Or.inr hnames))
  · rintro ⟨hname, hnested, htail⟩ names hnames hempty
    rcases declaredAt_cons_iff.mp hnames with (rfl | ⟨inner, hinner, rfl⟩) | hnames
    · exact hname (List.mem_singleton.mp hempty).symm
    · rcases List.mem_cons.mp hempty with hempty | hempty
      · exact hname hempty.symm
      · exact hnested inner hinner hempty
    · exact htail names hnames hempty

/-! ## Dotted paths -/

theorem dotted_singleton (name : String) : dotted [name] = name := String.intercalate_singleton

theorem dotted_cons (name : String) (h : names ≠ []) :
    dotted (name :: names) = name ++ "." ++ dotted names := by
  cases names with
  | nil => exact absurd rfl h
  | cons n ns => exact String.intercalate_cons_cons

/-- The first two names can be put together before the others follow. -/
theorem dotted_cons_cons (outer name : String) (names : List String) :
    dotted (outer :: name :: names) = dotted ((outer ++ "." ++ name) :: names) := by
  cases names with
  | nil => rw [dotted_cons _ (List.cons_ne_nil _ _), dotted_singleton, dotted_singleton]
  | cons n ns =>
    rw [dotted_cons _ (List.cons_ne_nil _ _), dotted_cons name (List.cons_ne_nil _ _),
      dotted_cons (outer ++ "." ++ name) (List.cons_ne_nil _ _)]
    simp only [String.append_assoc]

theorem append_dot_append_ne_empty (parent name : String) : parent ++ "." ++ name ≠ "" := by
  intro h
  have hlist := congrArg String.toList h
  simp at hlist

/-- The names from the first one on that is not empty. A message without a name leaves no trace in
the paths of the messages inside it, as long as it has no name around it either. -/
def namedPart (names : List String) : List String := names.dropWhile (· = "")

theorem namedPart_eq_self (h : "" ∉ names) : namedPart names = names := by
  cases names with
  | nil => rfl
  | cons n ns =>
    have hn : n ≠ "" := fun heq => h (heq ▸ List.mem_cons_self)
    exact List.dropWhile_cons_of_neg (by simpa using hn)

theorem foldl_joinPath_of_ne_empty (names : List String) :
    ∀ {parent : String}, parent ≠ "" → names.foldl joinPath parent = dotted (parent :: names) := by
  induction names with
  | nil => exact fun _ => (dotted_singleton _).symm
  | cons n ns ih =>
    intro parent hparent
    rw [List.foldl_cons, joinPath, if_neg hparent, ih (append_dot_append_ne_empty _ _),
      dotted_cons_cons]

/-- The path that names make, from the outermost on. -/
theorem foldl_joinPath (names : List String) :
    names.foldl joinPath "" = dotted (namedPart names) := by
  induction names with
  | nil => rfl
  | cons n ns ih =>
    rw [List.foldl_cons, joinPath, if_pos rfl]
    by_cases hn : n = ""
    · rw [hn, ih]
      rfl
    · rw [foldl_joinPath_of_ne_empty ns hn, namedPart, List.dropWhile_cons_of_neg (by simpa using hn)]

mutual

/-- The paths of a message are its own and those of the messages inside it. -/
theorem mem_paths_iff : ∀ {m : Message} {parent : String},
    path ∈ m.paths parent ↔ path = joinPath parent m.name ∨
      ∃ inner, DeclaredAt m.nested inner ∧ path = inner.foldl joinPath (joinPath parent m.name)
  | ⟨name?, nested⟩, parent => by
    rw [Message.paths, List.mem_append, List.mem_singleton, or_comm, mem_pathsAll_iff]
    rfl

/-- The paths of messages under a parent are those that their names make. -/
theorem mem_pathsAll_iff : ∀ {ms : List Message} {parent : String},
    path ∈ Message.pathsAll parent ms ↔
      ∃ names, DeclaredAt ms names ∧ path = names.foldl joinPath parent
  | [], parent => by simp [Message.pathsAll, declaredAt_nil]
  | m :: ms, parent => by
    rw [Message.pathsAll, List.mem_append, mem_paths_iff, mem_pathsAll_iff]
    constructor
    · rintro ((rfl | ⟨inner, hinner, rfl⟩) | ⟨names, hnames, rfl⟩)
      · exact ⟨_, .outermost List.mem_cons_self, rfl⟩
      · exact ⟨_, .inside List.mem_cons_self hinner, rfl⟩
      · exact ⟨names, declaredAt_cons_iff.mpr (Or.inr hnames), rfl⟩
    · rintro ⟨names, hnames, rfl⟩
      rcases declaredAt_cons_iff.mp hnames with (rfl | ⟨inner, hinner, rfl⟩) | hnames
      · exact Or.inl (Or.inl rfl)
      · exact Or.inl (Or.inr ⟨inner, hinner, rfl⟩)
      · exact Or.inr ⟨names, hnames, rfl⟩

end

/-- A file lists a path for each of its messages, and no others. -/
theorem mem_messagePaths_iff_namedPart {f : File} : path ∈ f.messagePaths ↔
    ∃ names, DeclaredAt f.messages names ∧ path = dotted (namedPart names) := by
  simp only [File.messagePaths, mem_pathsAll_iff, foldl_joinPath]

/-- A file lists the dotted paths of all its messages, and no others. -/
theorem mem_messagePaths_iff {f : File} (h : HasNames f.messages) :
    path ∈ f.messagePaths ↔ ∃ names, DeclaredAt f.messages names ∧ path = dotted names := by
  rw [mem_messagePaths_iff_namedPart]
  refine exists_congr fun names => and_congr_right fun hnames => ?_
  rw [namedPart_eq_self (h names hnames)]

end

/-! ## Levels -/

/-- Whether no message is declared more than the given number of levels deep, where one that is
declared outside of all others stands at the first level. -/
def WithinLevels (n : Nat) (ms : List Message) : Prop :=
  ∀ names, DeclaredAt ms names → names.length ≤ n

section

variable {n : Nat} {m : Message} {ms : List Message}

theorem withinLevels_nil (n : Nat) : WithinLevels n [] := fun names h =>
  absurd h (declaredAt_nil names)

theorem withinLevels_cons_iff :
    WithinLevels n (m :: ms) ↔ (0 < n ∧ WithinLevels (n - 1) m.nested) ∧ WithinLevels n ms := by
  constructor
  · intro h
    have hpos : 1 ≤ n := h [m.name] (.outermost List.mem_cons_self)
    refine ⟨⟨hpos, fun inner hinner => ?_⟩, fun names hnames => ?_⟩
    · have hlength := h _ (.inside List.mem_cons_self hinner)
      rw [List.length_cons] at hlength
      omega
    · exact h names (declaredAt_cons_iff.mpr (Or.inr hnames))
  · intro ⟨⟨hpos, hnested⟩, htail⟩ names hnames
    rcases declaredAt_cons_iff.mp hnames with (rfl | ⟨inner, hinner, rfl⟩) | hnames
    · exact hpos
    · have hlength := hnested inner hinner
      rw [List.length_cons]
      omega
    · exact htail names hnames

end

end GoStubs.Proto
