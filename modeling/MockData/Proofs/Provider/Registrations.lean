import MockData.Provider.Registry
import MockData.Proofs.Text.Dictionary

/-!
# Registries are prefix-free maps

A registry stands for a map from lists of names to providers that is defined without a tree: a
registration takes away every name in front of the new one and behind it. `Represents` ties the tree
to the map, `represents_register` says that one registration keeps the tie, and what is looked up or
listed is read off the map.
-/

namespace MockData

abbrev NameMap (α : Type) := List String → Option α

namespace NameMap

variable {α : Type}

def empty : NameMap α := fun _ => none

/-- Adds a provider under `names`. What was there, at the start of `names` or behind it, goes. -/
def add (m : NameMap α) (names : List String) (p : α) : NameMap α := fun key =>
  if key = names then some p
  else if key <+: names ∨ names <+: key then none
  else m key

def Reaches (m : NameMap α) (path : List String) : Prop := ∃ key p, m key = some p ∧ path <+: key

def PrefixFree (m : NameMap α) : Prop :=
  ∀ key other p q, m key = some p → m other = some q → key <+: other → key = other

theorem add_eq_some_iff (m : NameMap α) (names key : List String) (p q : α) :
    m.add names p key = some q ↔
      key = names ∧ p = q ∨ ¬ key <+: names ∧ ¬ names <+: key ∧ m key = some q := by
  unfold add
  split
  · rename_i same
    simp [same]
  · rename_i different
    split
    · rename_i related
      simp only [reduceCtorEq, different, false_and, false_or, false_iff]
      rintro ⟨notBefore, notBehind, -⟩
      exact related.elim notBefore notBehind
    · rename_i apart
      rw [not_or] at apart
      simp [different, apart]

theorem prefixFree_empty : PrefixFree (empty : NameMap α) := by
  intro _ _ _ _ found
  exact nomatch found

theorem PrefixFree.add {m : NameMap α} (free : m.PrefixFree) (names : List String) (p : α) :
    (m.add names p).PrefixFree := by
  intro key other q r one two le
  rw [add_eq_some_iff] at one two
  rcases one with ⟨rfl, -⟩ | ⟨notBefore, notBehind, one⟩
  · rcases two with ⟨rfl, -⟩ | ⟨-, notBehind, -⟩
    · rfl
    · exact absurd le notBehind
  · rcases two with ⟨rfl, -⟩ | ⟨-, -, two⟩
    · exact absurd le notBefore
    · exact free key other q r one two le

/-- What looking up a path gives: the provider that is there, or a complaint that providers are only
behind it, or its first name that leads to no provider. -/
inductive Outcome (m : NameMap α) (path : List String) : Except PathError α → Prop where
  | found {p : α} (here : m path = some p) : Outcome m path (.ok p)
  | space {key : List String} {p : α} (there : m key = some p) (before : path <+: key)
      (proper : path ≠ key) : Outcome m path (.error .notCallable)
  | missing {front back : List String} {name : String} (parts : path = front ++ name :: back)
      (absent : ¬ m.Reaches (front ++ [name]))
      (first : ∀ shorter, shorter <+: front → shorter ≠ [] → m.Reaches shorter) :
      Outcome m path (.error (.missing name))

/-- What is found behind a name is found behind it in the whole map. -/
theorem Outcome.under {m : NameMap α} {name : String} {rest : List String}
    {outcome : Except PathError α} (reached : m.Reaches [name])
    (inner : Outcome (fun key => m (name :: key)) rest outcome) :
    Outcome m (name :: rest) outcome := by
  cases inner with
  | found here => exact .found here
  | space there before proper =>
    exact .space there (List.cons_prefix_cons.mpr ⟨rfl, before⟩) fun same =>
      proper (List.cons.inj same).2
  | @missing front back _ parts absent first =>
    subst parts
    refine .missing (List.cons_append ..).symm ?_ fun shorter le some => ?_
    · rintro ⟨_, p, there, rest, rfl⟩
      exact absent ⟨_, p, there, rest, rfl⟩
    · rcases List.prefix_cons_iff.mp le with none | ⟨behind, rfl, inner⟩
      · exact absurd none some
      · cases behind with
        | nil => exact reached
        | cons n names =>
          obtain ⟨key, p, there, before⟩ := first (n :: names) inner (List.cons_ne_nil n names)
          exact ⟨name :: key, p, there, List.cons_prefix_cons.mpr ⟨rfl, before⟩⟩

theorem Reaches.of_prefix {m : NameMap α} {path longer : List String} (reaches : m.Reaches longer)
    (le : path <+: longer) : m.Reaches path := by
  obtain ⟨key, p, there, before⟩ := reaches
  exact ⟨key, p, there, le.trans before⟩

/-- A name that leads nowhere lies on no path that leads somewhere. -/
theorem not_reaches_of_missing {m : NameMap α} {front back : List String} {name : String}
    (absent : ¬ m.Reaches (front ++ [name])) : ¬ m.Reaches (front ++ name :: back) := by
  refine fun reaches => absent (reaches.of_prefix ⟨back, ?_⟩)
  simp

/-- Of two names that lead nowhere the first of a path is not behind the other. -/
theorem length_le_of_missing {m : NameMap α} {front back front' : List String} {name : String}
    (le : front' <+: front ++ name :: back) (absent : ¬ m.Reaches (front ++ [name]))
    (first : ∀ shorter, shorter <+: front' → shorter ≠ [] → m.Reaches shorter) :
    front'.length ≤ front.length := by
  refine Nat.le_of_not_lt fun longer => absent (first _ ?_ (by simp))
  refine List.prefix_of_prefix_length_le ⟨back, ?_⟩ le
    (by rw [List.length_append]; exact longer)
  simp

theorem Outcome.unique {m : NameMap α} {path : List String} {one other : Except PathError α}
    (free : m.PrefixFree) (first : Outcome m path one) (second : Outcome m path other) :
    one = other := by
  cases first with
  | @found p here =>
    have reaches : m.Reaches path := ⟨path, p, here, List.prefix_refl path⟩
    cases second with
    | found there => rw [Option.some.inj (here.symm.trans there)]
    | space there before proper => exact absurd (free _ _ _ _ here there before) proper
    | missing parts absent _ => exact absurd (parts ▸ reaches) (not_reaches_of_missing absent)
  | @space key p there before proper =>
    have reaches : m.Reaches path := ⟨key, p, there, before⟩
    cases second with
    | found here => exact absurd (free _ _ _ _ here there before) proper
    | space _ _ _ => rfl
    | missing parts absent _ => exact absurd (parts ▸ reaches) (not_reaches_of_missing absent)
  | @missing front back name parts absent first =>
    cases second with
    | @found p here =>
      have reaches : m.Reaches path := ⟨path, p, here, List.prefix_refl path⟩
      exact absurd (parts ▸ reaches) (not_reaches_of_missing absent)
    | @space key p there before _ =>
      have reaches : m.Reaches path := ⟨key, p, there, before⟩
      exact absurd (parts ▸ reaches) (not_reaches_of_missing absent)
    | @missing front' back' name' parts' absent' first' =>
      have one := length_le_of_missing ⟨name :: back, parts.symm.trans parts'⟩ absent' first
      have two := length_le_of_missing ⟨name' :: back', parts'.symm.trans parts⟩ absent first'
      have behind := List.append_inj_right (parts.symm.trans parts') (Nat.le_antisymm one two)
      rw [(List.cons.inj behind).1]

end NameMap

namespace RegistryEntry

variable {α : Type}

mutual
def leaves : RegistryEntry α → List (List String × α)
  | .provider p => [([], p)]
  | .space entries => leavesIn entries
def leavesIn : List (String × RegistryEntry α) → List (List String × α)
  | [] => []
  | (name, entry) :: rest =>
    (leaves entry).map (fun leaf => (name :: leaf.1, leaf.2)) ++ leavesIn rest
end

/-- Every space at or below an entry has entries, whose names are in ascending order. -/
inductive Proper : RegistryEntry α → Prop where
  | provider (p : α) : Proper (.provider p)
  | space {entries : List (String × RegistryEntry α)} (filled : entries ≠ [])
      (ascending : Dictionary.Ascending entries) (below : ∀ entry ∈ entries, Proper entry.2) :
      Proper (.space entries)

/-- A space of proper entries in ascending order. Only the outermost one may be empty. -/
structure ProperSpace (entries : Dictionary (RegistryEntry α)) : Prop where
  ascending : Dictionary.Ascending entries
  below : ∀ entry ∈ entries, Proper entry.2

section

variable {entries below : Dictionary (RegistryEntry α)} {key rest : List String} {name : String}
  {entry : RegistryEntry α} {p q : α}

theorem mem_leaves_provider : (key, q) ∈ leaves (.provider p) ↔ key = [] ∧ q = p := by
  simp [leaves]

theorem mem_leavesIn : (key, q) ∈ leavesIn entries ↔
    ∃ name entry rest, (name, entry) ∈ entries ∧ key = name :: rest ∧ (rest, q) ∈ leaves entry := by
  induction entries with
  | nil => simp [leavesIn]
  | cons first others ih =>
    obtain ⟨name, entry⟩ := first
    simp only [leavesIn, List.mem_append, List.mem_map, Prod.mk.injEq, ih, List.mem_cons]
    constructor
    · rintro (⟨⟨rest, r⟩, leaf, rfl, rfl⟩ | ⟨n, e, rest, member, split, leaf⟩)
      · exact ⟨name, entry, rest, .inl ⟨rfl, rfl⟩, rfl, leaf⟩
      · exact ⟨n, e, rest, .inr member, split, leaf⟩
    · rintro ⟨n, e, rest, ⟨rfl, rfl⟩ | member, split, leaf⟩
      · exact .inl ⟨(rest, q), leaf, split.symm, rfl⟩
      · exact .inr ⟨n, e, rest, member, split, leaf⟩

theorem nil_not_mem_leavesIn : ([], q) ∉ leavesIn entries := by
  rw [mem_leavesIn]
  rintro ⟨_, _, _, _, split, _⟩
  exact nomatch split

theorem ProperSpace.cons_mem_leavesIn (proper : ProperSpace entries) :
    (name :: rest, q) ∈ leavesIn entries ↔
      ∃ entry, Dictionary.get? entries name = some entry ∧ (rest, q) ∈ leaves entry := by
  rw [mem_leavesIn]
  constructor
  · rintro ⟨_, entry, _, member, split, leaf⟩
    obtain ⟨rfl, rfl⟩ := List.cons.inj split
    exact ⟨entry, (Dictionary.get?_eq_some_iff proper.ascending).mpr member, leaf⟩
  · rintro ⟨entry, found, leaf⟩
    exact ⟨name, entry, rest, (Dictionary.get?_eq_some_iff proper.ascending).mp found, rfl, leaf⟩

theorem ProperSpace.nil : ProperSpace ([] : Dictionary (RegistryEntry α)) :=
  ⟨.nil, by simp⟩

theorem ProperSpace.put (proper : ProperSpace entries) (inner : Proper entry) :
    ProperSpace (Dictionary.put name entry entries) := by
  refine ⟨Dictionary.put_ascending proper.ascending name entry, fun other member => ?_⟩
  rcases Dictionary.mem_put member with rfl | old
  · exact inner
  · exact proper.below other old

theorem ProperSpace.get? (proper : ProperSpace entries)
    (found : Dictionary.get? entries name = some entry) : Proper entry :=
  proper.below _ ((Dictionary.get?_eq_some_iff proper.ascending).mp found)

theorem ProperSpace.inner (proper : ProperSpace entries)
    (found : Dictionary.get? entries name = some (.space below)) :
    below ≠ [] ∧ ProperSpace below := by
  cases proper.get? found with
  | space filled ascending inner => exact ⟨filled, ascending, inner⟩

theorem ProperSpace.spaceAt (proper : ProperSpace entries) (name : String) :
    ProperSpace (spaceAt entries name) := by
  unfold RegistryEntry.spaceAt
  split
  · rename_i found
    exact (proper.inner found).2
  · exact .nil

theorem mem_leavesIn_spaceAt : (rest, q) ∈ leavesIn (spaceAt entries name) ↔
    ∃ below, Dictionary.get? entries name = some (.space below) ∧ (rest, q) ∈ leavesIn below := by
  unfold spaceAt
  split
  · rename_i below found
    simp [found]
  · rename_i noSpace
    simp only [leavesIn, List.not_mem_nil, false_iff]
    rintro ⟨below, found, _⟩
    exact noSpace below found

theorem register_cons_cons (p : α) (name next : String) (others : List String)
    (entries : Dictionary (RegistryEntry α)) :
    register p (name :: next :: others) entries =
      Dictionary.put name (.space (register p (next :: others) (spaceAt entries name))) entries :=
  rfl

theorem register_proper (proper : ProperSpace entries) {path : List String} (named : path ≠ [])
    (p : α) : register p path entries ≠ [] ∧ ProperSpace (register p path entries) := by
  induction path generalizing entries with
  | nil => exact absurd rfl named
  | cons name rest ih =>
    cases rest with
    | nil => exact ⟨Dictionary.put_ne_nil _ _ _, proper.put (.provider p)⟩
    | cons next others =>
      obtain ⟨filled, inner⟩ := ih (proper.spaceAt name) (List.cons_ne_nil next others)
      exact ⟨Dictionary.put_ne_nil _ _ _, proper.put (.space filled inner.ascending inner.below)⟩

/-- A registration adds a leaf and takes away those at the start of its names or behind them. -/
theorem mem_leavesIn_register (proper : ProperSpace entries) {path : List String}
    (named : path ≠ []) : (key, q) ∈ leavesIn (register p path entries) ↔
      key = path ∧ p = q ∨ ¬ key <+: path ∧ ¬ path <+: key ∧ (key, q) ∈ leavesIn entries := by
  induction path generalizing entries key with
  | nil => exact absurd rfl named
  | cons name rest ih =>
    have after := (register_proper proper named p).2
    cases key with
    | nil => simp [nil_not_mem_leavesIn]
    | cons n k =>
      rw [after.cons_mem_leavesIn, proper.cons_mem_leavesIn]
      cases rest with
      | nil =>
        rw [register, Dictionary.get?_put]
        by_cases here : n = name
        · subst here
          simp [mem_leaves_provider, eq_comm]
        · simp [here, Ne.symm here]
      | cons next others =>
        rw [register_cons_cons, Dictionary.get?_put]
        by_cases here : n = name
        · subst here
          simp only [↓reduceIte, Option.some.injEq, exists_eq_left', leaves, List.cons.injEq,
            true_and, List.cons_prefix_cons, ih (proper.spaceAt n) (List.cons_ne_nil next others),
            mem_leavesIn_spaceAt]
          refine or_congr_right (and_congr_right fun notBefore => and_congr_right fun _ => ?_)
          constructor
          · rintro ⟨below, found, leaf⟩
            exact ⟨_, found, leaf⟩
          · rintro ⟨entry, found, leaf⟩
            cases entry with
            | provider r =>
              rw [(mem_leaves_provider.mp leaf).1] at notBefore
              exact absurd List.nil_prefix notBefore
            | space below => exact ⟨below, found, leaf⟩
        · simp [here, Ne.symm here]

theorem Proper.exists_leaf (proper : Proper entry) : ∃ rest q, (rest, q) ∈ leaves entry := by
  induction proper with
  | provider p => exact ⟨[], p, mem_leaves_provider.mpr ⟨rfl, rfl⟩⟩
  | @space entries filled ascending below ih =>
    obtain ⟨⟨name, entry⟩, others, rfl⟩ := List.exists_cons_of_ne_nil filled
    obtain ⟨rest, q, leaf⟩ := ih (name, entry) List.mem_cons_self
    exact ⟨name :: rest, q, mem_leavesIn.mpr ⟨name, entry, rest, List.mem_cons_self, rfl, leaf⟩⟩

/-- Looking up finds what the leaves say. The names on the way are taken off the map one by one. -/
theorem resolve_outcome (proper : ProperSpace entries) {path : List String} {m : NameMap α}
    (reads : ∀ key q, (key, q) ∈ leavesIn entries ↔ m key = some q)
    (filled : path ≠ [] ∨ entries ≠ []) : m.Outcome path (resolve entries path) := by
  induction path generalizing entries m with
  | nil =>
    obtain ⟨⟨name, entry⟩, others, rfl⟩ :=
      List.exists_cons_of_ne_nil (filled.resolve_left fun named => named rfl)
    obtain ⟨rest, q, leaf⟩ := (proper.below _ List.mem_cons_self).exists_leaf
    have there := (reads (name :: rest) q).mp
      (mem_leavesIn.mpr ⟨name, entry, rest, List.mem_cons_self, rfl, leaf⟩)
    exact .space there List.nil_prefix (List.cons_ne_nil name rest).symm
  | cons name rest ih =>
    have step {k : List String} {q : α} : m (name :: k) = some q ↔
        ∃ entry, Dictionary.get? entries name = some entry ∧ (k, q) ∈ leaves entry := by
      rw [← reads, proper.cons_mem_leavesIn]
    rw [resolve]
    cases found : Dictionary.get? entries name with
    | none =>
      refine .missing (List.nil_append _).symm ?_ fun shorter le some =>
        absurd (List.prefix_nil.mp le) some
      rintro ⟨_, q, there, k, rfl⟩
      obtain ⟨entry, here, _⟩ := step.mp there
      rw [found] at here
      exact nomatch here
    | some entry =>
      have step {k : List String} {q : α} : m (name :: k) = some q ↔ (k, q) ∈ leaves entry := by
        rw [step, found]
        simp
      obtain ⟨k, q, leaf⟩ := (proper.get? found).exists_leaf
      have reached : m.Reaches [name] := ⟨name :: k, q, step.mpr leaf, k, rfl⟩
      cases entry with
      | space below =>
        obtain ⟨nonempty, inner⟩ := proper.inner found
        have outcome := ih inner (m := fun k => m (name :: k)) (fun k q => step.symm)
          (.inr nonempty)
        exact outcome.under reached
      | provider p =>
        cases rest with
        | nil => exact .found (step.mpr (mem_leaves_provider.mpr ⟨rfl, rfl⟩))
        | cons next others =>
          refine .missing (List.singleton_append ..).symm ?_ fun shorter le some => ?_
          · rintro ⟨_, q, there, k, rfl⟩
            exact nomatch (mem_leaves_provider.mp (step.mp there)).1
          · rcases List.prefix_cons_iff.mp le with none | ⟨_, rfl, inner⟩
            · exact absurd none some
            · rw [List.prefix_nil.mp inner]
              exact reached

theorem leavesIn_nodup (ascending : Dictionary.Ascending entries)
    (inner : ∀ entry ∈ entries, ((leaves entry.2).map Prod.fst).Nodup) :
    ((leavesIn entries).map Prod.fst).Nodup := by
  induction entries with
  | nil => exact .nil
  | cons first others ih =>
    obtain ⟨name, entry⟩ := first
    obtain ⟨least, behind⟩ := List.pairwise_cons.mp ascending
    have here : ((leaves entry).map fun leaf => name :: leaf.1).Nodup := by
      have distinct := inner (name, entry) List.mem_cons_self
      rw [List.Nodup, List.pairwise_map] at distinct ⊢
      exact distinct.imp fun different same => different (List.cons.inj same).2
    have later := ih behind fun other member => inner other (List.mem_cons_of_mem _ member)
    simp only [leavesIn, List.map_append, List.map_map, Function.comp_def]
    refine List.nodup_append.mpr ⟨here, later, ?_⟩
    rintro _ one _ two rfl
    obtain ⟨leaf, _, rfl⟩ := List.mem_map.mp one
    obtain ⟨⟨_, q⟩, there, rfl⟩ := List.mem_map.mp two
    obtain ⟨n, e, rest, member, same, _⟩ := mem_leavesIn.mp there
    rw [← (List.cons.inj same).1] at member
    exact String.lt_irrefl name (least _ member)

theorem Proper.leaves_nodup (proper : Proper entry) : ((leaves entry).map Prod.fst).Nodup := by
  induction proper with
  | provider p => exact List.pairwise_singleton _ _
  | space _ ascending _ ih => exact leavesIn_nodup ascending ih

end

end RegistryEntry

namespace Registry

variable {α : Type}

/-- The tree of a registry holds the providers of a map and no empty spaces. -/
structure Represents (r : Registry α) (m : NameMap α) : Prop where
  proper : RegistryEntry.ProperSpace r.entries
  reads : ∀ key p, (key, p) ∈ RegistryEntry.leavesIn r.entries ↔ m key = some p
  free : m.PrefixFree

theorem segments_ne_nil (path : String) : segments path ≠ [] := by
  simp [segments, Text.splitString, Text.split_ne_nil]

theorem represents_empty : Represents (empty : Registry α) .empty where
  proper := .nil
  reads _ _ := by simp [empty, RegistryEntry.leavesIn, NameMap.empty]
  free := NameMap.prefixFree_empty

theorem represents_register {r : Registry α} {m : NameMap α} (represents : Represents r m)
    (path : String) (p : α) : Represents (r.register path p) (m.add (segments path) p) where
  proper := (RegistryEntry.register_proper represents.proper (segments_ne_nil path) p).2
  reads key q := by
    rw [NameMap.add_eq_some_iff, ← represents.reads]
    exact RegistryEntry.mem_leavesIn_register represents.proper (segments_ne_nil path)
  free := represents.free.add _ _

def ofCalls (calls : List (String × α)) : Registry α :=
  calls.foldl (fun r call => r.register call.1 call.2) empty

end Registry

def NameMap.ofCalls {α : Type} (calls : List (String × α)) : NameMap α :=
  calls.foldl (fun m call => m.add (Registry.segments call.1) call.2) empty

namespace Registry

variable {α : Type}

theorem represents_foldl (calls : List (String × α)) {r : Registry α} {m : NameMap α}
    (represents : Represents r m) :
    Represents (calls.foldl (fun r call => r.register call.1 call.2) r)
      (calls.foldl (fun m call => m.add (segments call.1) call.2) m) := by
  induction calls generalizing r m with
  | nil => exact represents
  | cons call rest ih => exact ih (represents_register represents call.1 call.2)

theorem represents_ofCalls (calls : List (String × α)) :
    Represents (ofCalls calls) (.ofCalls calls) :=
  represents_foldl calls represents_empty

section

variable {r : Registry α} {m : NameMap α}

theorem Represents.nodup (represents : Represents r m) :
    ((RegistryEntry.leavesIn r.entries).map Prod.fst).Nodup :=
  RegistryEntry.leavesIn_nodup represents.proper.ascending fun entry member =>
    (represents.proper.below entry member).leaves_nodup

theorem Represents.resolve_iff (represents : Represents r m) (path : String)
    (outcome : Except PathError α) :
    r.resolve path = outcome ↔ m.Outcome (segments path) outcome := by
  have given : m.Outcome (segments path) (r.resolve path) :=
    RegistryEntry.resolve_outcome represents.proper represents.reads (.inl (segments_ne_nil path))
  exact ⟨fun same => same ▸ given, fun other => given.unique represents.free other⟩

theorem Represents.categories_ascending (represents : Represents r m) :
    r.categories.Pairwise (· < ·) :=
  List.pairwise_map.mpr represents.proper.ascending

theorem Represents.mem_categories_iff (represents : Represents r m) (name : String) :
    name ∈ r.categories ↔ ∃ rest p, m (name :: rest) = some p := by
  constructor
  · intro listed
    obtain ⟨⟨_, entry⟩, member, rfl⟩ := List.mem_map.mp listed
    obtain ⟨rest, p, leaf⟩ := (represents.proper.below _ member).exists_leaf
    exact ⟨rest, p, (represents.reads _ _).mp
      (RegistryEntry.mem_leavesIn.mpr ⟨_, entry, rest, member, rfl, leaf⟩)⟩
  · rintro ⟨rest, p, found⟩
    obtain ⟨_, entry, _, member, same, _⟩ :=
      RegistryEntry.mem_leavesIn.mp ((represents.reads _ _).mpr found)
    rw [(List.cons.inj same).1]
    exact List.mem_map.mpr ⟨_, member, rfl⟩

end

theorem foldl_add_eq_some {calls : List (String × α)} {m : NameMap α} {key : List String} {p : α}
    (found : calls.foldl (fun m call => m.add (segments call.1) call.2) m key = some p) :
    m key = some p ∨ ∃ call ∈ calls, key = segments call.1 ∧ p = call.2 := by
  induction calls generalizing m with
  | nil => exact .inl found
  | cons call rest ih =>
    rcases ih found with here | ⟨later, member, same⟩
    · rcases (NameMap.add_eq_some_iff _ _ _ _ _).mp here with ⟨named, value⟩ | ⟨-, -, old⟩
      · exact .inr ⟨call, List.mem_cons_self, named, value.symm⟩
      · exact .inl old
    · exact .inr ⟨later, List.mem_cons_of_mem _ member, same⟩

/-- What the map holds was registered at its names. -/
theorem ofCalls_eq_some {calls : List (String × α)} {key : List String} {p : α}
    (found : NameMap.ofCalls calls key = some p) :
    ∃ call ∈ calls, key = segments call.1 ∧ p = call.2 :=
  (foldl_add_eq_some found).resolve_left nofun

/-- After any registrations the tree holds each provider of a prefix-free map once, and no space
below the outermost one is empty. Looking up a path gives what the map says of its names, and the
categories are the first names of the map in ascending order. -/
theorem register_prefix_free (calls : List (String × α)) :
    let r := ofCalls calls
    let m := NameMap.ofCalls calls
    (∀ key p, (key, p) ∈ RegistryEntry.leavesIn r.entries ↔ m key = some p) ∧
    ((RegistryEntry.leavesIn r.entries).map Prod.fst).Nodup ∧
    m.PrefixFree ∧
    (∀ entry ∈ r.entries, entry.2.Proper) ∧
    (∀ path outcome, r.resolve path = outcome ↔ m.Outcome (segments path) outcome) ∧
    r.categories.Pairwise (· < ·) ∧
    ∀ name, name ∈ r.categories ↔ ∃ rest p, m (name :: rest) = some p := by
  intro r m
  have represents : Represents r m := represents_ofCalls calls
  exact ⟨represents.reads, represents.nodup, represents.free, represents.proper.below,
    represents.resolve_iff, represents.categories_ascending, represents.mem_categories_iff⟩

end Registry

end MockData
