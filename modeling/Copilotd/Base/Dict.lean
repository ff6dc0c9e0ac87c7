import Mathlib.Algebra.BigOperators.Group.List.Basic
import Mathlib.Algebra.GroupWithZero.Nat
import Mathlib.Algebra.Ring.Int.Defs

/-!
# Dictionaries

A dictionary is the list of its entries in insertion order, which is the order of
iteration.  Setting a key that exists keeps its place.
-/
namespace Copilotd.Base.Dict

variable {κ α : Type*} [DecidableEq κ]

def get (key : κ) (dict : List (κ × α)) : Option α :=
  (dict.find? fun entry => entry.1 = key).map Prod.snd

def set (key : κ) (value : α) (dict : List (κ × α)) : List (κ × α) :=
  if dict.any fun entry => entry.1 = key then
    dict.map fun entry => if entry.1 = key then (key, value) else entry
  else dict ++ [(key, value)]

/-- `dict.pop(key, None)`. -/
def pop (key : κ) (dict : List (κ × α)) : List (κ × α) :=
  dict.filter fun entry => entry.1 ≠ key

/-- `dict.setdefault(key, value)`. -/
def setdefault (key : κ) (value : α) (dict : List (κ × α)) : List (κ × α) :=
  if (get key dict).isSome then dict else set key value dict

/-- `dict.update(other)`. -/
def update (dict other : List (κ × α)) : List (κ × α) :=
  other.foldl (fun dict entry => set entry.1 entry.2 dict) dict

/-- No key has two entries. -/
def UniqueKeys (dict : List (κ × α)) : Prop := (dict.map Prod.fst).Nodup

variable {β : Type*} {key other : κ} {value : α} {dict : List (κ × α)}

omit [DecidableEq κ] in
theorem uniqueKeys_cons {entry : κ × α} {rest : List (κ × α)} :
    UniqueKeys (entry :: rest) ↔ entry.1 ∉ rest.map Prod.fst ∧ UniqueKeys rest :=
  List.nodup_cons

theorem get_cons (entry : κ × α) (rest : List (κ × α)) :
    get key (entry :: rest) = if entry.1 = key then some entry.2 else get key rest := by
  unfold get
  by_cases same : entry.1 = key
  · simp [same]
  · simp [same]

theorem mem_of_get (found : get key dict = some value) : (key, value) ∈ dict := by
  induction dict with
  | nil => cases found
  | cons entry rest ih =>
    rw [get_cons] at found
    split at found
    · next same =>
      cases found
      rw [← same]
      exact List.mem_cons_self ..
    · exact List.mem_cons_of_mem _ (ih found)

theorem get_of_mem (unique : UniqueKeys dict) (member : (key, value) ∈ dict) :
    get key dict = some value := by
  induction dict with
  | nil => cases member
  | cons entry rest ih =>
    rw [uniqueKeys_cons] at unique
    rw [get_cons]
    rcases List.mem_cons.mp member with rfl | inRest
    · rw [if_pos rfl]
    · have different : entry.1 ≠ key := by
        intro same
        apply unique.1
        rw [same]
        exact List.mem_map.mpr ⟨_, inRest, rfl⟩
      rw [if_neg different]
      exact ih unique.2 inRest

theorem get_eq_none_iff : get key dict = none ↔ key ∉ dict.map Prod.fst := by
  induction dict with
  | nil => simp [get]
  | cons entry rest ih =>
    rw [get_cons, List.map_cons, List.mem_cons, not_or, ← ih]
    split
    · next same => simp [same]
    · next different => simp [Ne.symm different]

theorem get_append (more : List (κ × α)) :
    get key (dict ++ more) = (get key dict).or (get key more) := by
  unfold get
  rw [List.find?_append, Option.map_or]

/-- A change of the values under their keys. -/
theorem get_mapValues (f : κ → α → β) :
    get key (dict.map fun entry => (entry.1, f entry.1 entry.2)) = (get key dict).map (f key) := by
  induction dict with
  | nil => rfl
  | cons entry rest ih =>
    rw [List.map_cons, get_cons, get_cons, ih]
    split
    · next same => rw [same, Option.map_some]
    · rfl

theorem get_filter (unique : UniqueKeys dict) (keep : κ × α → Bool) :
    get key (dict.filter keep) = (get key dict).filter fun value => keep (key, value) := by
  induction dict with
  | nil => rfl
  | cons entry rest ih =>
    rw [uniqueKeys_cons] at unique
    rw [List.filter_cons, get_cons]
    by_cases same : entry.1 = key
    · subst same
      rw [if_pos rfl, Option.filter_some]
      split
      · rw [get_cons, if_pos rfl]
      · rw [ih unique.2, get_eq_none_iff.mpr unique.1, Option.filter_none]
    · rw [if_neg same]
      split
      · rw [get_cons, if_neg same, ih unique.2]
      · exact ih unique.2

theorem set_of_present (present : key ∈ dict.map Prod.fst) :
    set key value dict =
      dict.map fun entry =>
        (entry.1, (fun k old => if k = key then value else old) entry.1 entry.2) := by
  obtain ⟨entry, member, same⟩ := List.mem_map.mp present
  unfold set
  rw [if_pos (List.any_eq_true.mpr ⟨entry, member, decide_eq_true same⟩)]
  refine List.map_congr_left ?_
  intro entry _
  by_cases same : entry.1 = key
  · simp [same]
  · simp [same]

theorem set_of_absent (absent : key ∉ dict.map Prod.fst) :
    set key value dict = dict ++ [(key, value)] := by
  unfold set
  rw [if_neg]
  intro present
  obtain ⟨entry, member, same⟩ := List.any_eq_true.mp present
  exact absent (List.mem_map.mpr ⟨entry, member, of_decide_eq_true same⟩)

theorem get_set :
    get other (set key value dict) = if other = key then some value else get other dict := by
  by_cases present : key ∈ dict.map Prod.fst
  · rw [set_of_present present, get_mapValues fun k old => if k = key then value else old]
    split
    · next same =>
      subst same
      cases found : get other dict with
      | none => exact absurd present (get_eq_none_iff.mp found)
      | some old => rfl
    · exact Option.map_id'
  · rw [set_of_absent present, get_append, get_cons]
    split
    · next same =>
      subst same
      rw [get_eq_none_iff.mpr present, if_pos rfl, Option.none_or]
    · next different =>
      rw [if_neg (Ne.symm different)]
      exact Option.or_none

@[simp] theorem get_set_self : get key (set key value dict) = some value := by
  rw [get_set, if_pos rfl]

theorem keys_set : (set key value dict).map Prod.fst =
    if key ∈ dict.map Prod.fst then dict.map Prod.fst else dict.map Prod.fst ++ [key] := by
  split
  · next present => rw [set_of_present present, List.map_map]; rfl
  · next absent => rw [set_of_absent absent, List.map_append, List.map_singleton]

theorem uniqueKeys_set (unique : UniqueKeys dict) : UniqueKeys (set key value dict) := by
  unfold UniqueKeys
  rw [keys_set]
  split
  · exact unique
  · next absent =>
    rw [List.nodup_append]
    refine ⟨unique, by simp, ?_⟩
    rintro a inDict b inNew rfl
    rw [List.mem_singleton.mp inNew] at inDict
    exact absent inDict

theorem uniqueKeys_update {entries : List (κ × α)} (unique : UniqueKeys dict) :
    UniqueKeys (update dict entries) := by
  induction entries generalizing dict with
  | nil => exact unique
  | cons entry rest ih => exact ih (uniqueKeys_set unique)

/-- A dictionary of new keys is added at the end. -/
theorem update_of_fresh {entries : List (κ × α)} (unique : UniqueKeys (dict ++ entries)) :
    update dict entries = dict ++ entries := by
  induction entries generalizing dict with
  | nil => exact (List.append_nil dict).symm
  | cons entry rest ih =>
    have fresh : entry.1 ∉ dict.map Prod.fst := by
      intro member
      unfold UniqueKeys at unique
      rw [List.map_append, List.nodup_append] at unique
      exact unique.2.2 _ member _ (List.mem_map.mpr ⟨entry, List.mem_cons_self .., rfl⟩) rfl
    have step : update dict (entry :: rest) = update (dict ++ [entry]) rest := by
      unfold update
      rw [List.foldl_cons, set_of_absent fresh]
    rw [step, ih (by rwa [List.append_assoc, List.singleton_append]), List.append_assoc,
      List.singleton_append]

omit [DecidableEq κ] in
theorem uniqueKeys_filter (unique : UniqueKeys dict) (keep : κ × α → Bool) :
    UniqueKeys (dict.filter keep) :=
  List.Nodup.sublist (List.filter_sublist.map Prod.fst) unique

/-- Popping keys one after the other filters them out. -/
theorem foldl_pop (entries : List (κ × β)) (dict : List (κ × α)) :
    entries.foldl (fun dict entry => pop entry.1 dict) dict =
      dict.filter fun entry => entry.1 ∉ entries.map Prod.fst := by
  induction entries generalizing dict with
  | nil => simp
  | cons first rest ih =>
    rw [List.foldl_cons, ih, pop, List.filter_filter]
    refine List.filter_congr ?_
    intro entry _
    simp only [List.map_cons, List.mem_cons, not_or, Bool.decide_and, Bool.and_comm, ne_eq]

theorem get_pop (unique : UniqueKeys dict) :
    get other (pop key dict) = if other = key then none else get other dict := by
  unfold pop
  rw [get_filter unique]
  split
  · next same =>
    subst same
    cases get other dict <;> simp
  · next different =>
    cases get other dict with
    | none => rfl
    | some value => simp [different]

theorem get_setdefault : get other (setdefault key value dict) =
    if other = key then some ((get key dict).getD value) else get other dict := by
  unfold setdefault
  split
  · next present =>
    obtain ⟨old, found⟩ := Option.isSome_iff_exists.mp present
    split
    · next same =>
      subst same
      rw [found, Option.getD_some]
    · rfl
  · next absent =>
    rw [get_set]
    split
    · rw [Option.not_isSome_iff_eq_none.mp absent, Option.getD_none]
    · rfl

theorem uniqueKeys_setdefault (unique : UniqueKeys dict) :
    UniqueKeys (setdefault key value dict) := by
  unfold setdefault
  split
  · exact unique
  · exact uniqueKeys_set unique

/-- The defaults of a dictionary, each set in turn: the keys that exist have precedence. -/
theorem get_foldl_setdefault (entries dict : List (κ × α)) :
    get key (entries.foldl (fun dict entry => setdefault entry.1 entry.2 dict) dict) =
      (get key dict).or (get key entries) := by
  induction entries generalizing dict with
  | nil => exact Option.or_none.symm
  | cons entry rest ih =>
    rw [List.foldl_cons, ih, get_setdefault, get_cons]
    by_cases same : key = entry.1
    · subst same
      rw [if_pos rfl, if_pos rfl]
      cases get entry.1 dict with
      | none => rfl
      | some old => rfl
    · rw [if_neg same, if_neg (Ne.symm same)]

theorem uniqueKeys_foldl_setdefault (entries : List (κ × α)) (unique : UniqueKeys dict) :
    UniqueKeys (entries.foldl (fun dict entry => setdefault entry.1 entry.2 dict) dict) := by
  induction entries generalizing dict with
  | nil => exact unique
  | cons entry rest ih => exact ih (uniqueKeys_setdefault unique)

/-! ## Sums over the values -/

def sum (f : α → Int) (dict : List (κ × α)) : Int := (dict.map fun entry => f entry.2).sum

omit [DecidableEq κ] in
theorem sum_cons (f : α → Int) (entry : κ × α) (rest : List (κ × α)) :
    sum f (entry :: rest) = f entry.2 + sum f rest := by
  unfold sum
  rw [List.map_cons, List.sum_cons]

theorem set_cons {entry : κ × α} {rest : List (κ × α)} (unique : entry.1 ∉ rest.map Prod.fst) :
    set key value (entry :: rest) =
      if entry.1 = key then (key, value) :: rest else entry :: set key value rest := by
  by_cases same : entry.1 = key
  · subst same
    rw [if_pos rfl, set_of_present (by simp), List.map_cons]
    dsimp only
    rw [if_pos rfl]
    refine congrArg _ ?_
    conv_rhs => rw [← List.map_id rest]
    refine List.map_congr_left ?_
    intro other member
    have different : other.1 ≠ entry.1 := by
      intro equal
      exact unique (List.mem_map.mpr ⟨other, member, equal⟩)
    rw [if_neg different]
    rfl
  · rw [if_neg same]
    by_cases present : key ∈ rest.map Prod.fst
    · rw [set_of_present (List.mem_cons_of_mem _ present), set_of_present present, List.map_cons]
      dsimp only
      rw [if_neg same]
    · have absent : key ∉ (entry :: rest).map Prod.fst := by
        rw [List.map_cons, List.mem_cons, not_or]
        exact ⟨Ne.symm same, present⟩
      rw [set_of_absent absent, set_of_absent present, List.cons_append]

theorem sum_set (f : α → Int) (unique : UniqueKeys dict) :
    sum f (set key value dict) = sum f dict + f value - ((get key dict).map f).getD 0 := by
  induction dict with
  | nil => simp [set, sum, get]
  | cons entry rest ih =>
    rw [uniqueKeys_cons] at unique
    rw [get_cons, set_cons unique.1, sum_cons]
    split
    · rw [sum_cons, Option.map_some, Option.getD_some]
      dsimp only
      omega
    · rw [sum_cons, ih unique.2]
      omega

theorem sum_pop (f : α → Int) (unique : UniqueKeys dict) :
    sum f (pop key dict) = sum f dict - ((get key dict).map f).getD 0 := by
  induction dict with
  | nil => rfl
  | cons entry rest ih =>
    rw [uniqueKeys_cons] at unique
    have tail := ih unique.2
    unfold pop at tail ⊢
    rw [get_cons, List.filter_cons]
    by_cases same : entry.1 = key
    · subst same
      rw [get_eq_none_iff.mpr unique.1, Option.map_none, Option.getD_none] at tail
      simp only [ne_eq, not_true_eq_false, decide_false, Bool.false_eq_true, if_false, if_true,
        Option.map_some, Option.getD_some, sum_cons]
      rw [tail]
      omega
    · simp only [ne_eq, same, not_false_eq_true, decide_true, if_true, if_false, sum_cons]
      rw [tail]
      omega

/-! ## One value for many keys -/

theorem get_foldl_set_const (value : α) (keys : List κ) (dict : List (κ × α)) :
    get key (keys.foldl (fun dict key => set key value dict) dict) =
      if key ∈ keys then some value else get key dict := by
  induction keys generalizing dict with
  | nil => rfl
  | cons first keys ih =>
    rw [List.foldl_cons, ih, get_set]
    by_cases later : key ∈ keys
    · simp [later]
    · simp [later]

/-! ## An entry whose value varies -/

/-- The dictionaries are equal but for the value of the key, or equal. -/
def Slotted (key : κ) (dicts : β → List (κ × β)) : Prop :=
  (∃ before after, ∀ value, dicts value = before ++ (key, value) :: after) ∨
    ∃ dict, ∀ value, dicts value = dict

theorem slotted_new {dict : List (κ × β)} (absent : key ∉ dict.map Prod.fst) :
    Slotted key fun value => set key value dict :=
  .inl ⟨dict, [], fun _ => set_of_absent absent⟩

/-- A slot is set itself, or keeps its place. -/
theorem Slotted.set {slot : κ} {dicts : β → List (κ × β)} (slotted : Slotted slot dicts) (key : κ)
    (new : β) : Slotted slot fun value => Dict.set key new (dicts value) := by
  rcases slotted with ⟨before, after, shape⟩ | ⟨dict, fixed⟩
  · by_cases same : slot = key
    · refine .inr ⟨(before.map fun entry => if entry.1 = key then (key, new) else entry) ++
        (key, new) :: after.map fun entry => if entry.1 = key then (key, new) else entry, ?_⟩
      intro value
      simp only [shape, Dict.set, same, List.any_append, List.any_cons, decide_true, Bool.true_or,
        Bool.or_true, if_true, List.map_append, List.map_cons]
    · by_cases present : (before ++ after).any (fun entry => entry.1 = key) = true
      · refine .inl ⟨before.map fun entry => if entry.1 = key then (key, new) else entry,
          after.map fun entry => if entry.1 = key then (key, new) else entry, ?_⟩
        intro value
        rw [List.any_append] at present
        simp only [shape, Dict.set, same, List.any_append, List.any_cons, decide_false,
          Bool.false_or, present, if_true, if_false, List.map_append, List.map_cons]
      · refine .inl ⟨before, after ++ [(key, new)], ?_⟩
        intro value
        rw [List.any_append] at present
        simp only [shape, Dict.set, same, List.any_append, List.any_cons, decide_false,
          Bool.false_or, present, Bool.false_eq_true, if_false, List.append_assoc, List.cons_append]
  · exact .inr ⟨Dict.set key new dict, fun value => congrArg _ (fixed value)⟩

theorem Slotted.update {slot : κ} {dicts : β → List (κ × β)} (slotted : Slotted slot dicts)
    (entries : List (κ × β)) : Slotted slot fun value => Dict.update (dicts value) entries := by
  induction entries generalizing dicts with
  | nil => exact slotted
  | cons entry entries ih => exact ih (slotted.set entry.1 entry.2)

end Copilotd.Base.Dict
