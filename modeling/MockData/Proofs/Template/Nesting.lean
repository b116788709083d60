import MockData.Proofs.Template.Parts

/-!
# The nesting limit

A value that can be compiled at all is compiled by every limit that reaches its height, to the same
template, and is refused by every lower one at its first node below the limit
(`compile_threshold`). A result that is not such a refusal is the same for all higher limits.
-/

namespace MockData

namespace Template

/-! ### Heights -/

mutual
def height : Template → Nat
  | .literal _ => 0
  | .sequence items => heightItems items
  | .mapping entries => heightEntries entries
  | .faker _ _ _ => 0
  | .array _ _ element => height element + 1
  | .oneOf _ options => heightItems options
  | .nullable _ _ value => height value + 1
def heightItems : List Template → Nat
  | [] => 0
  | t :: rest => max (height t + 1) (heightItems rest)
def heightEntries : List (String × Template) → Nat
  | [] => 0
  | (_, t) :: rest => max (height t + 1) (heightEntries rest)
end

theorem lt_heightItems_iff {k : Nat} {ts : List Template} :
    k < heightItems ts ↔ ∃ t ∈ ts, k ≤ t.height := by
  induction ts with
  | nil => simp [heightItems]
  | cons t rest ih =>
    rw [heightItems, List.exists_mem_cons_iff, ← ih]
    omega

theorem heightEntries_eq (entries : List (String × Template)) :
    heightEntries entries = heightItems (entries.map Prod.snd) := by
  induction entries with
  | nil => rfl
  | cons entry rest ih => rw [heightEntries, ih, List.map_cons, heightItems]

theorem height_eq (t : Template) : t.height = heightItems t.children := by
  cases t with
  | mapping entries => exact heightEntries_eq entries
  | array place cardinality element => simp [height, children, heightItems]
  | nullable place probability value => simp [height, children, heightItems]
  | _ => rfl

theorem lt_height_iff {k : Nat} {t : Template} : k < t.height ↔ ∃ c ∈ t.children, k ≤ c.height := by
  rw [height_eq, lt_heightItems_iff]

/-! ### Nodes -/

structure Node where
  depth : Nat
  place : Location

/-- The nodes of a document from a value on, an outer one before those inside it. -/
def nodes (depth : Nat) (place : Location) (v : Json) : List Node :=
  ⟨depth, place⟩ :: v.parts.attach.flatMap fun ⟨part, _⟩ =>
    nodes (depth + 1) (place.below part.tokens) part.value
termination_by sizeOf v
decreasing_by exact Json.sizeOf_lt_of_mem_parts ‹_›

theorem nodes_eq (depth : Nat) (place : Location) (v : Json) :
    nodes depth place v = ⟨depth, place⟩ :: v.parts.flatMap fun part =>
      nodes (depth + 1) (place.below part.tokens) part.value := by
  rw [nodes, List.flatMap_subtype, List.unattach_attach]
  exact fun _ _ => rfl

def first? (depth : Nat) (ns : List Node) : Option Node := ns.find? fun n => n.depth == depth

theorem first?_nodes_self (depth : Nat) (place : Location) (v : Json) :
    first? depth (nodes depth place v) = some ⟨depth, place⟩ := by
  rw [nodes_eq]
  simp [first?]

theorem first?_nodes_below (depth k : Nat) (place : Location) (v : Json) :
    first? (depth + (k + 1)) (nodes depth place v) =
      first? (depth + 1 + k) (v.parts.flatMap fun part =>
        nodes (depth + 1) (place.below part.tokens) part.value) := by
  have shallow : (depth == depth + (k + 1)) = false := by simp
  have level : depth + 1 + k = depth + (k + 1) := by omega
  rw [nodes_eq, level]
  simp [first?, shallow]

/-! ### Cutting a template off -/

/-- A result, unless one of the nodes is at the level that is out of bounds. -/
def cut {α : Type} (limit bound : Nat) (ns : List Node) (a : α) : Except DirectiveError α :=
  match first? bound ns with
  | none => .ok a
  | some n => .error (.tooDeep n.place limit)

section

variable {α β : Type} {limit bound : Nat}

theorem map_cut (f : α → β) (ns : List Node) (a : α) :
    f <$> cut limit bound ns a = cut limit bound ns (f a) := by
  unfold cut
  cases first? bound ns <;> rfl

theorem cut_append (ns more : List Node) (a : α) (rest : List α) :
    (cut limit bound ns a >>= fun b => cut limit bound more rest >>= fun bs => pure (b :: bs)) =
      cut limit bound (ns ++ more) (a :: rest) := by
  unfold cut first?
  rw [List.find?_append]
  cases ns.find? fun n => n.depth == bound with
  | some n => rfl
  | none =>
    rw [Option.none_or]
    cases more.find? fun n => n.depth == bound <;> rfl

theorem mapM_cut {f : α → Except DirectiveError β} {inside : α → List Node} {xs : List α}
    {ys : List β} (each : List.Forall₂ (fun x y => f x = cut limit bound (inside x) y) xs ys) :
    xs.mapM f = cut limit bound (xs.flatMap inside) ys := by
  induction each with
  | nil => rfl
  | cons one _ ih =>
    rw [List.mapM_cons, one, ih, List.flatMap_cons, ← cut_append]

end

/-- A value that can be compiled is compiled by as many levels as its nodes need, and is refused at
the first node that needs one more. -/
theorem compileWithin_cut {limit levels : Nat} {place : Location} {v : Json} {t : Template}
    (compiled : compileWithin limit levels place v = .ok t) (other rest depth : Nat) :
    compileWithin other rest place v = cut other (depth + rest) (nodes depth place v) t := by
  -- One level down `depth` grows and `rest` shrinks, so the level out of bounds stays the same.
  induction levels generalizing place v t rest depth with
  | zero => exact nomatch compiled
  | succ levels ih =>
    cases rest with
    | zero =>
      rw [cut, Nat.add_zero, first?_nodes_self]
      rfl
    | succ rest =>
      obtain ⟨build, framed, same, all⟩ := compileWithin_succ_ok compiled
      have each := all.imp fun part c one => ih one rest (depth + 1)
      rw [compileWithin_succ, framed, mapM_cut each]
      refine (map_cut build _ t.children).trans ?_
      rw [same, cut, cut, first?_nodes_below]

theorem exists_mem_congr {α β : Type} {P : α → Prop} {Q : β → Prop} {xs : List α} {ys : List β}
    (each : List.Forall₂ (fun x y => P x ↔ Q y) xs ys) : (∃ x ∈ xs, P x) ↔ ∃ y ∈ ys, Q y := by
  induction each with
  | nil => simp
  | cons same _ ih => rw [List.exists_mem_cons_iff, List.exists_mem_cons_iff, same, ih]

/-- The nodes of a document reach as deep as its template is high. -/
theorem first?_isSome_iff {limit levels : Nat} {place : Location} {v : Json} {t : Template}
    (compiled : compileWithin limit levels place v = .ok t) (depth k : Nat) :
    (first? (depth + k) (nodes depth place v)).isSome ↔ k ≤ t.height := by
  induction levels generalizing place v t depth k with
  | zero => exact nomatch compiled
  | succ levels ih =>
    cases k with
    | zero =>
      rw [Nat.add_zero, first?_nodes_self]
      exact iff_of_true rfl (Nat.zero_le _)
    | succ k =>
      obtain ⟨_, _, _, all⟩ := compileWithin_succ_ok compiled
      have each := all.imp fun part c one => ih one (depth + 1) k
      rw [Nat.succ_le_iff, lt_height_iff, first?_nodes_below, ← exists_mem_congr each]
      simp [first?]

/-! ### Raising the limit -/

/-- The second result is the first one, unless that is a refusal for its depth. -/
def Extends {α : Type} (x y : Except DirectiveError α) : Prop :=
  (∃ place limit, x = .error (.tooDeep place limit)) ∨ y = x

section

variable {α β : Type}

theorem Extends.bind {x y : Except DirectiveError α} {f g : α → Except DirectiveError β}
    (first : Extends x y) (next : ∀ a, Extends (f a) (g a)) : Extends (x >>= f) (y >>= g) := by
  rcases first with ⟨place, limit, rfl⟩ | rfl
  · exact .inl ⟨place, limit, rfl⟩
  · cases y with
    | error e => exact .inr rfl
    | ok a => exact next a

theorem Extends.map {x y : Except DirectiveError α} (f : α → β) (more : Extends x y) :
    Extends (f <$> x) (f <$> y) := by
  rcases more with ⟨place, limit, rfl⟩ | rfl
  · exact .inl ⟨place, limit, rfl⟩
  · exact .inr rfl

theorem Extends.mapM {f g : α → Except DirectiveError β} (each : ∀ a, Extends (f a) (g a))
    (xs : List α) : Extends (xs.mapM f) (xs.mapM g) := by
  induction xs with
  | nil => exact .inr rfl
  | cons x rest ih =>
    rw [List.mapM_cons, List.mapM_cons]
    exact (each x).bind fun y => ih.bind fun ys => .inr rfl

end

theorem compileWithin_extends {limit other levels rest : Nat} (more : levels ≤ rest)
    (place : Location) (v : Json) :
    Extends (compileWithin limit levels place v) (compileWithin other rest place v) := by
  induction levels generalizing rest place v with
  | zero => exact .inl ⟨place, limit, rfl⟩
  | succ levels ih =>
    obtain ⟨rest, rfl⟩ := Nat.exists_eq_add_one_of_ne_zero (Nat.ne_zero_of_lt more)
    rw [compileWithin_succ, compileWithin_succ]
    refine Extends.bind (.inr rfl) fun build => ?_
    have inside (part : Part) :=
      ih (Nat.le_of_succ_le_succ more) (place.below part.tokens) part.value
    exact (Extends.mapM inside v.parts).map build

/-! ### The threshold -/

/-- The limits that a value is compiled with are those from the height of its template on, and a
lower limit refuses the first node that is one level too deep. Where a limit does not refuse a value
for its depth, higher limits make no difference. -/
theorem compile_threshold (value : Json) (root : String) :
    (∀ limit t, compile value root limit = .ok t → ∀ d,
      (t.height ≤ d → compile value root d = .ok t) ∧
      (d < t.height → ∃ place,
        first? (d + 1) (nodes 0 (.atRoot root) value) = some ⟨d + 1, place⟩ ∧
        compile value root d = .error (.tooDeep place d))) ∧
    ∀ d higher, d ≤ higher →
      (∀ place limit, compile value root d ≠ .error (.tooDeep place limit)) →
      compile value root higher = compile value root d := by
  constructor
  · intro limit t compiled d
    have result := compileWithin_cut compiled d (d + 1) 0
    have deeper := first?_isSome_iff compiled 0 (d + 1)
    rw [Nat.zero_add] at result deeper
    constructor
    · intro reaches
      have none : first? (d + 1) (nodes 0 (.atRoot root) value) = none := by
        rw [← Option.not_isSome_iff_eq_none, deeper]
        omega
      rw [compile, result, cut, none]
    · intro short
      obtain ⟨⟨depth, place⟩, found⟩ := Option.isSome_iff_exists.mp (deeper.mpr short)
      obtain rfl : depth = d + 1 := by simpa using List.find?_some found
      refine ⟨place, found, ?_⟩
      rw [compile, result, cut, found]
  · intro d higher more kept
    have raised : Extends (compile value root d) (compile value root higher) :=
      compileWithin_extends (Nat.succ_le_succ more) _ value
    exact raised.resolve_left fun ⟨place, limit, refused⟩ => kept place limit refused

/-- An element that is left out has a place of its own, and is refused there. -/
theorem compile_threshold_omitted :
    let value : Json := .object [("b", .object [("$array", .object [("count", .ofUInt64 2)])]),
      ("a", .array [.array [.bool true]])]
    let place : Location := ⟨"/t", ["b", "$array", "element"]⟩
    ∃ t, compile value "/t" 7 = .ok t ∧ t.height = 3 ∧ compile value "/t" 3 = .ok t ∧
      first? 2 (nodes 0 (.atRoot "/t") value) = some ⟨2, place⟩ ∧
      compile value "/t" 1 = .error (.tooDeep place 1) ∧
      compile value "/t" 9 = compile value "/t" 3 := by
  intro value place
  obtain ⟨threshold, raised⟩ := compile_threshold value "/t"
  have compiled : ∃ t, compile value "/t" 7 = .ok t ∧ t.height = 3 := ⟨_, rfl, rfl⟩
  obtain ⟨t, compiled, height⟩ := compiled
  have reached := (threshold 7 t compiled 3).1 (by omega)
  obtain ⟨found, node, refused⟩ := (threshold 7 t compiled 1).2 (by omega)
  obtain rfl : place = found := by
    have here : compile value "/t" 1 = .error (.tooDeep place 1) := rfl
    rw [here] at refused
    exact (DirectiveError.tooDeep.inj (Except.error.inj refused)).1
  have same : compile value "/t" 9 = compile value "/t" 3 := by
    refine raised 3 9 (by omega) fun _ _ refused => ?_
    rw [reached] at refused
    exact nomatch refused
  exact ⟨t, compiled, height, reached, node, refused, same⟩

end Template

end MockData
