/-!
# Dictionaries

Values under names, in the order in which the names came first.  Setting the value of a
name that is there keeps its place; a new name goes to the end.  Documents, tables of
settings, sessions and collections are all kept this way.
-/

namespace DocumentGate

/-- Values under names, in order. -/
abbrev Dictionary (α : Type) := List (String × α)

namespace Dictionary

variable {α : Type}

/-- Set the value of a name: in place where the name is present, else at the end. -/
def insert (name : String) (value : α) : Dictionary α → Dictionary α
  | [] => [(name, value)]
  | (other, old) :: rest =>
    if other = name then (other, value) :: rest else (other, old) :: insert name value rest

/-- Drop the entry of a name. -/
def erase (name : String) (entries : Dictionary α) : Dictionary α :=
  entries.filter fun (other, _) => other != name

/-- The value of a name. -/
def get? (name : String) : Dictionary α → Option α
  | [] => none
  | (other, value) :: rest => if other = name then some value else get? name rest

/-- Entries in the order in which their names came first, each with the value that came last. -/
def ofPairs (pairs : List (String × α)) : Dictionary α :=
  pairs.foldl (fun entries (name, value) => insert name value entries) []

/-- The names in order. -/
def names (entries : Dictionary α) : List String :=
  entries.map Prod.fst

theorem get?_insert (name asked : String) (value : α) (entries : Dictionary α) :
    get? asked (insert name value entries) =
      if name = asked then some value else get? asked entries := by
  induction entries with
  | nil => simp [insert, get?]
  | cons first rest ih =>
    obtain ⟨other, old⟩ := first
    by_cases same : other = name
    · subst same
      by_cases found : other = asked <;> simp [insert, get?, found]
    · by_cases found : other = asked
      · subst found
        simp [insert, get?, same, Ne.symm same]
      · simp [insert, get?, same, found, ih]

/-- A name that is there stays there. -/
theorem isSome_get?_insert {name asked : String} {value : α} {entries : Dictionary α}
    (present : (get? asked entries).isSome = true) :
    (get? asked (insert name value entries)).isSome = true := by
  rw [get?_insert]
  split
  · rfl
  · exact present

theorem isSome_get?_eq (name : String) (entries : Dictionary α) :
    (get? name entries).isSome = (names entries).contains name := by
  induction entries with
  | nil => rfl
  | cons first rest ih =>
    obtain ⟨other, value⟩ := first
    rw [get?]
    by_cases same : other = name
    · simp [same, names]
    · rw [if_neg same, ih]
      simp [names, Ne.symm same]

theorem get?_erase (name asked : String) (entries : Dictionary α) :
    get? asked (erase name entries) = if name = asked then none else get? asked entries := by
  induction entries with
  | nil => simp [erase, get?]
  | cons first rest ih =>
    obtain ⟨other, old⟩ := first
    simp only [erase] at ih ⊢
    by_cases same : other = name
    · subst same
      by_cases found : other = asked <;> simp_all [get?]
    · by_cases found : other = asked
      · subst found
        simp [get?, same, Ne.symm same]
      · simp_all [get?]

theorem names_insert (name : String) (value : α) (entries : Dictionary α) :
    names (insert name value entries) =
      if name ∈ names entries then names entries else names entries ++ [name] := by
  unfold names
  induction entries with
  | nil => simp [insert]
  | cons first rest ih =>
    obtain ⟨other, old⟩ := first
    by_cases same : other = name
    · simp [insert, same]
    · simp only [insert, same, if_false, List.map_cons, List.mem_cons, Ne.symm same,
        false_or, ih]
      split <;> simp_all

theorem insert_of_not_mem {name : String} {value : α} {entries : Dictionary α}
    (new : name ∉ names entries) : insert name value entries = entries ++ [(name, value)] := by
  induction entries with
  | nil => rfl
  | cons first rest ih =>
    obtain ⟨other, old⟩ := first
    simp only [names, List.map_cons, List.mem_cons, not_or] at new
    rw [insert, if_neg (Ne.symm new.1), ih new.2]
    rfl

/-- A new name goes to the end. -/
theorem insert_of_get?_eq_none {name : String} {value : α} {entries : Dictionary α}
    (missing : get? name entries = none) :
    insert name value entries = entries ++ [(name, value)] := by
  apply insert_of_not_mem
  have absent := isSome_get?_eq name entries
  rw [missing] at absent
  simpa using absent.symm

/-- What entries show stays where a new value shows the same as the one that was there. -/
theorem map_insert_of_get? {β : Type} {name : String} {value old : α} {entries : Dictionary α}
    (found : get? name entries = some old) (shown : α → β) (same : shown value = shown old) :
    (insert name value entries).map (Prod.map id shown) = entries.map (Prod.map id shown) := by
  induction entries with
  | nil => cases found
  | cons first rest ih =>
    obtain ⟨other, first⟩ := first
    rw [get?] at found
    split at found
    · rename_i here
      obtain rfl := Option.some.inj found
      simp [insert, here, same]
    · rename_i elsewhere
      rw [insert, if_neg elsewhere, List.map_cons, List.map_cons, ih found]

/-- Nothing changes where the value of a name is set to the one that it has. -/
theorem insert_of_get? {name : String} {value : α} {entries : Dictionary α}
    (found : get? name entries = some value) : insert name value entries = entries := by
  simpa using map_insert_of_get? found id rfl

theorem foldl_insert_of_nodup {entries pairs : Dictionary α}
    (distinct : (names (entries ++ pairs)).Nodup) :
    pairs.foldl (fun entries (name, value) => insert name value entries) entries =
      entries ++ pairs := by
  induction pairs generalizing entries with
  | nil => simp
  | cons first rest ih =>
    obtain ⟨name, value⟩ := first
    have moved : entries ++ (name, value) :: rest = entries ++ [(name, value)] ++ rest := by simp
    have new : name ∉ names entries := by
      rw [names, List.map_append, List.nodup_append] at distinct
      intro member
      exact distinct.2.2 name member name List.mem_cons_self rfl
    rw [moved] at distinct ⊢
    rw [List.foldl_cons, ← ih distinct, ← insert_of_not_mem new]

/-- Entries whose names are distinct stay as they are. -/
theorem ofPairs_of_nodup {pairs : Dictionary α} (distinct : (names pairs).Nodup) :
    ofPairs pairs = pairs :=
  foldl_insert_of_nodup distinct

end Dictionary
end DocumentGate
