namespace Poco

/-! Keys are compared character by character, which is also the order of their UTF-8
bytes.  What a dictionary holds is what `find?` gives for every key. -/

structure Dictionary (α : Type) where
  entries : List (String × α)
  sorted : entries.Pairwise (fun left right => left.1 < right.1)

namespace Dictionary

variable {α : Type}

def empty : Dictionary α :=
  { entries := [], sorted := .nil }

def isEmpty (dictionary : Dictionary α) : Bool :=
  dictionary.entries.isEmpty

def alterEntries (key : String) (change : Option α → α) :
    List (String × α) → List (String × α)
  | [] => [(key, change none)]
  | (other, value) :: rest =>
      if key = other then
        (other, change (some value)) :: rest
      else if key < other then
        (key, change none) :: (other, value) :: rest
      else
        (other, value) :: alterEntries key change rest

theorem mem_alterEntries {key : String} {change : Option α → α} {entries : List (String × α)}
    {entry : String × α} (member : entry ∈ alterEntries key change entries) :
    entry.1 = key ∨ entry ∈ entries := by
  induction entries with
  | nil => simp_all [alterEntries]
  | cons head rest ih =>
      simp only [alterEntries] at member
      split at member
      case isTrue same =>
          rcases List.mem_cons.mp member with first | later
          · exact .inl (by rw [first, same])
          · exact .inr (List.mem_cons_of_mem _ later)
      case isFalse =>
          split at member
          case isTrue =>
              rcases List.mem_cons.mp member with first | later
              · exact .inl (by rw [first])
              · exact .inr later
          case isFalse =>
              rcases List.mem_cons.mp member with first | later
              · exact .inr (by rw [first]; exact List.mem_cons_self)
              · exact (ih later).imp_right (List.mem_cons_of_mem _)

theorem sorted_alterEntries (key : String) (change : Option α → α)
    {entries : List (String × α)} (sorted : entries.Pairwise (fun left right => left.1 < right.1)) :
    (alterEntries key change entries).Pairwise (fun left right => left.1 < right.1) := by
  induction entries with
  | nil => exact List.pairwise_singleton _ _
  | cons head rest ih =>
      obtain ⟨above, sortedRest⟩ := List.pairwise_cons.mp sorted
      simp only [alterEntries]
      split
      case isTrue => exact List.pairwise_cons.mpr ⟨above, sortedRest⟩
      case isFalse distinct =>
          split
          case isTrue before =>
              refine List.pairwise_cons.mpr ⟨fun entry member => ?_, sorted⟩
              rcases List.mem_cons.mp member with first | later
              · rw [first]
                exact before
              · exact String.lt_trans before (above entry later)
          case isFalse notBefore =>
              have after : head.1 < key :=
                String.not_le.mp fun reached =>
                  distinct (String.le_antisymm (String.not_lt.mp notBefore) reached).symm
              refine List.pairwise_cons.mpr ⟨fun entry member => ?_, ih sortedRest⟩
              rcases mem_alterEntries member with same | old
              · rw [same]
                exact after
              · exact above entry old

/-- Put under `key` what `change` makes of the value there. -/
def alter (dictionary : Dictionary α) (key : String) (change : Option α → α) : Dictionary α :=
  { entries := alterEntries key change dictionary.entries
    sorted := sorted_alterEntries key change dictionary.sorted }

def insert (dictionary : Dictionary α) (key : String) (value : α) : Dictionary α :=
  dictionary.alter key (fun _ => value)

def ofList (entries : List (String × α)) : Dictionary α :=
  entries.foldl (fun dictionary entry => dictionary.insert entry.1 entry.2) .empty

def map {β : Type} (change : α → β) (dictionary : Dictionary α) : Dictionary β :=
  { entries := dictionary.entries.map fun entry => (entry.1, change entry.2)
    sorted := List.pairwise_map.mpr dictionary.sorted }

def findEntry (key : String) : List (String × α) → Option α
  | [] => none
  | (other, value) :: rest => if key = other then some value else findEntry key rest

def find? (dictionary : Dictionary α) (key : String) : Option α :=
  findEntry key dictionary.entries

theorem findEntry_eq_none {key : String} {entries : List (String × α)}
    (above : ∀ entry ∈ entries, key < entry.1) : findEntry key entries = none := by
  induction entries with
  | nil => rfl
  | cons head rest ih =>
      have first := above head List.mem_cons_self
      have unequal : key ≠ head.1 := fun equal => String.lt_irrefl _ (equal ▸ first)
      simp only [findEntry, if_neg unequal]
      exact ih fun entry member => above entry (List.mem_cons_of_mem _ member)

theorem findEntry_alterEntries (key wanted : String) (change : Option α → α)
    {entries : List (String × α)} (sorted : entries.Pairwise (fun left right => left.1 < right.1)) :
    findEntry wanted (alterEntries key change entries) =
      if wanted = key then some (change (findEntry key entries)) else findEntry wanted entries := by
  induction entries with
  | nil => by_cases same : wanted = key <;> simp [alterEntries, findEntry, same]
  | cons head rest ih =>
      obtain ⟨above, sortedRest⟩ := List.pairwise_cons.mp sorted
      have rests := ih sortedRest
      simp only [alterEntries]
      split
      case isTrue equal =>
          subst equal
          by_cases same : wanted = head.1 <;> simp [findEntry, same]
      case isFalse distinct =>
          split
          case isTrue before =>
              have absent : findEntry key rest = none :=
                findEntry_eq_none fun entry member =>
                  String.lt_trans before (above entry member)
              by_cases same : wanted = key
              · subst same
                simp [findEntry, distinct, absent]
              · simp [findEntry, same]
          case isFalse after =>
              by_cases here : wanted = head.1
              · simp [findEntry, here, Ne.symm distinct]
              · simp [findEntry, here, rests, distinct]

@[simp] theorem find?_empty (key : String) : (empty : Dictionary α).find? key = none := rfl

/-- A change shows under its own key and nowhere else. -/
theorem find?_alter (dictionary : Dictionary α) (key wanted : String) (change : Option α → α) :
    (dictionary.alter key change).find? wanted =
      if wanted = key then some (change (dictionary.find? key)) else dictionary.find? wanted :=
  findEntry_alterEntries key wanted change dictionary.sorted

theorem find?_insert (dictionary : Dictionary α) (key wanted : String) (value : α) :
    (dictionary.insert key value).find? wanted =
      if wanted = key then some value else dictionary.find? wanted :=
  dictionary.find?_alter key wanted fun _ => value

/-- Of several values put under one key the last one stays. -/
theorem find?_foldl_insert {β : Type} (make : β → α) (entries : List (String × β))
    (dictionary : Dictionary α) (key : String) :
    (entries.foldl (fun dictionary entry => dictionary.insert entry.1 (make entry.2))
        dictionary).find? key =
      ((entries.reverse.lookup key).map make).or (dictionary.find? key) := by
  -- A later value is put over an earlier one, so the first hit counts from the end.
  induction entries generalizing dictionary with
  | nil => rfl
  | cons entry rest ih =>
      obtain ⟨given, value⟩ := entry
      rw [List.foldl_cons, ih, find?_insert, List.reverse_cons, List.lookup_append,
        List.lookup_cons]
      by_cases same : key = given
      · cases rest.reverse.lookup key <;> simp [same]
      · have others : (key == given) = false := beq_false_of_ne same
        cases rest.reverse.lookup key <;> simp [same, others]

theorem find?_ofList (entries : List (String × α)) (key : String) :
    (ofList entries).find? key = entries.reverse.lookup key := by
  have found := find?_foldl_insert id entries .empty key
  rwa [Option.map_id, id_eq, find?_empty, Option.or_none] at found

theorem find?_map {β : Type} (change : α → β) (dictionary : Dictionary α) (key : String) :
    (dictionary.map change).find? key = (dictionary.find? key).map change := by
  simp only [find?, map]
  induction dictionary.entries with
  | nil => rfl
  | cons entry rest ih =>
      simp only [List.map_cons, findEntry, ih]
      split <;> rfl

theorem mem_entries_iff (dictionary : Dictionary α) (entry : String × α) :
    entry ∈ dictionary.entries ↔ dictionary.find? entry.1 = some entry.2 := by
  obtain ⟨entries, sorted⟩ := dictionary
  simp only [find?]
  induction entries with
  | nil => simp [findEntry]
  | cons head rest ih =>
      obtain ⟨above, sortedRest⟩ := List.pairwise_cons.mp sorted
      rw [List.mem_cons, ih sortedRest, findEntry]
      by_cases same : entry.1 = head.1
      · have absent : findEntry head.1 rest = none := findEntry_eq_none above
        simp [same, absent, Prod.ext_iff, eq_comm]
      · simp [same, Prod.ext_iff]

end Dictionary

end Poco
