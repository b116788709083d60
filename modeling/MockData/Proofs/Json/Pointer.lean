import MockData.Json.Value
import MockData.Location
import MockData.Proofs.Text.Split

/-!
# JSON pointers

`Json.pointed?` goes from a value to the one that a pointer names. `decode?_foldl_child` reads the
tokens of a pointer back; so below one place, different tokens make different pointers. Nothing but
what is written so is read, and pointers go on from each other as their tokens do:
`foldl_child_invertible`.
-/

namespace MockData

namespace Pointer

theorem unescape?_cons {c : Char} (plain : c ≠ '~') (rest : List Char) :
    unescape? (c :: rest) = (unescape? rest).map (c :: ·) := by
  rw [unescape?.eq_def (c :: rest)]
  split <;> simp_all

theorem unescape?_escaped (token : List Char) :
    unescape? (token.flatMap escapeChar) = some token := by
  induction token with
  | nil => rfl
  | cons c rest ih =>
    by_cases tilde : c = '~'
    · subst tilde
      simp [escapeChar, unescape?, ih]
    · by_cases slash : c = '/'
      · subst slash
        simp [escapeChar, unescape?, ih]
      · have plain : escapeChar c = [c] := by simp [escapeChar, tilde, slash]
        rw [List.flatMap_cons, plain, List.singleton_append, unescape?_cons tilde, ih]
        rfl

theorem slash_not_mem_escaped (token : List Char) : '/' ∉ token.flatMap escapeChar := by
  intro member
  obtain ⟨c, _, inside⟩ := List.mem_flatMap.mp member
  unfold escapeChar at inside
  split at inside
  · simp at inside
  · split at inside
    · simp at inside
    · rename_i other
      exact other (List.mem_singleton.mp inside).symm

theorem toList_foldl_child (parent : String) (tokens : List String) :
    (tokens.foldl child parent).toList =
      parent.toList ++ tokens.flatMap fun token => '/' :: token.toList.flatMap escapeChar := by
  induction tokens generalizing parent with
  | nil => simp
  | cons token rest ih => simp [ih, child, escape]

theorem foldl_child_eq (parent : String) (tokens : List String) :
    tokens.foldl child parent = parent ++ tokens.foldl child "" := by
  apply String.toList_inj.mp
  rw [String.toList_append, toList_foldl_child, toList_foldl_child]
  rfl

theorem split_escaped (token : String) (rest : List String) :
    Text.split '/' (token.toList.flatMap escapeChar ++
        rest.flatMap fun token => '/' :: token.toList.flatMap escapeChar) =
      (token :: rest).map fun token => token.toList.flatMap escapeChar := by
  induction rest generalizing token with
  | nil => simpa using Text.split_of_not_mem (slash_not_mem_escaped token.toList)
  | cons next rest ih =>
    rw [List.flatMap_cons, List.cons_append, Text.split_append,
      Text.split_of_not_mem (slash_not_mem_escaped token.toList), ih next]
    rfl

theorem mapM_unescape? (tokens : List String) :
    (tokens.map fun token => token.toList.flatMap escapeChar).mapM unescape? =
      some (tokens.map String.toList) := by
  induction tokens with
  | nil => rfl
  | cons token rest ih => simp [ih, unescape?_escaped]

/-- The tokens that a pointer is made of are read back. -/
theorem decode?_foldl_child (tokens : List String) :
    decode? (tokens.foldl child "") = some tokens := by
  -- No escaped token has a slash in it, so splitting at slashes gives the tokens back.
  unfold decode?
  rw [toList_foldl_child]
  cases tokens with
  | nil => rfl
  | cons token rest =>
    rw [List.flatMap_cons, List.cons_append]
    change ((Text.split '/' (_ ++ _)).mapM unescape?).map _ = _
    rw [split_escaped, mapM_unescape?, Option.map_some, List.map_map]
    simp [Function.comp_def]

theorem foldl_child_injective {parent : String} {tokens others : List String}
    (same : tokens.foldl child parent = others.foldl child parent) : tokens = others := by
  have texts := congrArg String.toList same
  rw [toList_foldl_child, toList_foldl_child] at texts
  have alone : tokens.foldl child "" = others.foldl child "" := by
    apply String.toList_inj.mp
    rw [toList_foldl_child, toList_foldl_child, List.append_cancel_left texts]
  have decoded := decode?_foldl_child tokens
  rw [alone, decode?_foldl_child] at decoded
  exact (Option.some.inj decoded).symm

/-! ### Writing and reading are inverse -/

def replaced (old : Char) (new text : List Char) : List Char :=
  text.flatMap fun c => if c = old then new else [c]

/-- The tilde goes first, or it would be replaced in what stands for a slash. -/
theorem toList_escape (token : String) :
    (escape token).toList = replaced '/' ['~', '1'] (replaced '~' ['~', '0'] token.toList) := by
  rw [escape, String.toList_ofList, replaced, replaced, List.flatMap_assoc]
  congr 1
  funext c
  unfold escapeChar
  by_cases tilde : c = '~'
  · simp [tilde]
  · by_cases slash : c = '/' <;> simp [tilde, slash]

theorem escaped_injective :
    Function.Injective fun token : String => token.toList.flatMap escapeChar := by
  intro token other same
  have read := congrArg unescape? same
  rw [unescape?_escaped, unescape?_escaped] at read
  exact String.toList_inj.mp (Option.some.inj read)

/-- What a part without slashes is read as is written as that part. -/
theorem escaped_of_unescape? {part token : List Char} (absent : '/' ∉ part)
    (read : unescape? part = some token) : token.flatMap escapeChar = part := by
  fun_induction unescape? part generalizing token with
  | case1 =>
    cases read
    rfl
  | case2 rest ih | case3 rest ih =>
    obtain ⟨behind, inner, rfl⟩ := Option.map_eq_some_iff.mp read
    rw [List.flatMap_cons, ih (by simp_all) inner]
    rfl
  | case4 rest => exact nomatch read
  | case5 c rest _ _ plain ih =>
    obtain ⟨behind, inner, rfl⟩ := Option.map_eq_some_iff.mp read
    rw [List.mem_cons, not_or] at absent
    have kept : escapeChar c = [c] := by simp [escapeChar, plain, Ne.symm absent.1]
    rw [List.flatMap_cons, kept, ih absent.2 inner]
    rfl

theorem escaped_of_mapM_unescape? {parts tokens : List (List Char)}
    (absent : ∀ part ∈ parts, '/' ∉ part) (read : parts.mapM unescape? = some tokens) :
    tokens.map (List.flatMap escapeChar) = parts := by
  induction parts generalizing tokens with
  | nil =>
    cases read
    rfl
  | cons part rest ih =>
    obtain ⟨here, later⟩ := List.forall_mem_cons.mp absent
    rw [List.mapM_cons] at read
    obtain ⟨token, first, read⟩ := Option.bind_eq_some_iff.mp read
    obtain ⟨others, behind, read⟩ := Option.bind_eq_some_iff.mp read
    cases read
    rw [List.map_cons, escaped_of_unescape? here first, ih later behind]

/-- A pointer is written in one way only. -/
theorem foldl_child_of_decode? {pointer : String} {tokens : List String}
    (read : decode? pointer = some tokens) : tokens.foldl child "" = pointer := by
  unfold decode? at read
  apply String.toList_inj.mp
  rw [toList_foldl_child]
  split at read
  · rename_i empty
    cases read
    rw [empty]
    rfl
  · rename_i rest text
    obtain ⟨texts, parts, rfl⟩ := Option.map_eq_some_iff.mp read
    have written := escaped_of_mapM_unescape? (fun _ => Text.not_mem_of_mem_split) parts
    have joined := Text.flatMap_split '/' rest
    rw [← written, List.flatMap_map] at joined
    simpa [text, List.flatMap_map] using joined
  · exact nomatch read

/-! ### Places below others -/

theorem split_tokens (tokens : List String) :
    Text.split '/' (tokens.flatMap fun token => '/' :: token.toList.flatMap escapeChar) =
      [] :: tokens.map fun token => token.toList.flatMap escapeChar := by
  cases tokens with
  | nil => rfl
  | cons token rest =>
    rw [List.flatMap_cons, List.cons_append, ← split_escaped]
    simp [Text.split]

/-- A pointer is the other one, or goes on from it at a slash. -/
def Extends (pointer above : String) : Prop :=
  pointer = above ∨ ∃ rest, pointer = above ++ "/" ++ rest

theorem extends_append (parent : String) (tokens more : List String) :
    Extends ((tokens ++ more).foldl child parent) (tokens.foldl child parent) := by
  rw [List.foldl_append, foldl_child_eq]
  cases more with
  | nil => exact .inl (String.append_empty)
  | cons token rest =>
    refine .inr ⟨escape token ++ rest.foldl child "", ?_⟩
    rw [List.foldl_cons, foldl_child_eq (child "" token)]
    simp [child, String.append_assoc]

theorem prefix_of_extends {parent : String} {tokens others : List String}
    (goesOn : Extends (others.foldl child parent) (tokens.foldl child parent)) :
    tokens <+: others := by
  rcases goesOn with same | ⟨rest, longer⟩
  · obtain rfl := foldl_child_injective same
    exact List.prefix_rfl
  · -- The slash in front of `rest` is one at which the longer pointer is split.
    have texts := congrArg String.toList longer
    rw [String.toList_append, String.toList_append, toList_foldl_child, toList_foldl_child,
      List.append_assoc, List.append_assoc] at texts
    have parts := congrArg (Text.split '/') (List.append_cancel_left texts)
    change _ = Text.split '/' (_ ++ '/' :: rest.toList) at parts
    rw [Text.split_append, split_tokens, split_tokens, List.cons_append] at parts
    have front : tokens.map (fun token => token.toList.flatMap escapeChar) <+:
        others.map fun token => token.toList.flatMap escapeChar :=
      ⟨_, (List.cons.inj parts).2.symm⟩
    exact (List.prefix_map_iff_of_injective escaped_injective).mp front

/-- Pointers and lists of tokens are the same thing in two forms. A token is put behind a slash with
its tildes and then its slashes replaced; what is put together so, and nothing else, is read back as
the tokens. Below one place, pointers are the same if the tokens are, and one goes on from another
at a slash if its tokens go on from those of the other. -/
theorem foldl_child_invertible :
    (∀ parent token, (child parent token).toList =
      parent.toList ++ '/' :: replaced '/' ['~', '1'] (replaced '~' ['~', '0'] token.toList)) ∧
    (∀ pointer tokens, decode? pointer = some tokens ↔ pointer = tokens.foldl child "") ∧
    ∀ parent tokens others,
      (tokens.foldl child parent = others.foldl child parent ↔ tokens = others) ∧
      (Extends (others.foldl child parent) (tokens.foldl child parent) ↔ tokens <+: others) := by
  refine ⟨fun parent token => ?_, fun pointer tokens => ⟨fun read => ?_, ?_⟩,
    fun parent tokens others => ⟨⟨foldl_child_injective, ?_⟩, prefix_of_extends, ?_⟩⟩
  · rw [← toList_escape, child, String.toList_append, String.toList_append, List.append_assoc]
    rfl
  · exact (foldl_child_of_decode? read).symm
  · rintro rfl
    exact decode?_foldl_child tokens
  · rintro rfl
    rfl
  · rintro ⟨more, rfl⟩
    exact extends_append parent tokens more

example : ["~1", "", "/~"].foldl child "" = "/~01//~1~0" := by decide

end Pointer

namespace Json

/-- The index that a token names. It is written in decimal, without zeros in front. -/
def index? (token : String) : Option Nat :=
  let n := Nat.ofDigitChars 10 token.toList 0
  if toString n = token then some n else none

theorem index?_toString (n : Nat) : index? (toString n) = some n := by
  have digits : Nat.ofDigitChars 10 (toString n).toList 0 = n := by
    rw [Nat.toString_eq_ofList_toDigits, String.toList_ofList, Nat.ofDigitChars_ten_toDigits]
  rw [index?, digits, if_pos rfl]

theorem toString_of_index? {token : String} {n : Nat} (index : index? token = some n) :
    toString n = token := by
  unfold index? at index
  dsimp only at index
  split at index
  · rename_i same
    cases index
    exact same
  · exact nomatch index

def step? : Json → String → Option Json
  | .array items, token => (index? token).bind fun i => items[i]?
  | .object members, token => find? members token
  | _, _ => none

theorem step?_item {items : List Json} {i : Nat} {item : Json} (found : items[i]? = some item) :
    (array items).step? (toString i) = some item := by
  rw [step?, index?_toString, Option.bind_some, found]

def at? (value : Json) : List String → Option Json
  | [] => some value
  | token :: rest => (value.step? token).bind fun inner => inner.at? rest

theorem at?_append (value : Json) (tokens more : List String) :
    value.at? (tokens ++ more) = (value.at? tokens).bind fun inner => inner.at? more := by
  induction tokens generalizing value with
  | nil => rfl
  | cons token rest ih =>
    rw [List.cons_append, at?, at?, Option.bind_assoc]
    exact congrArg _ (funext ih)

theorem at?_concat {value inner : Json} {tokens : List String} (token : String)
    (found : value.at? tokens = some inner) :
    value.at? (tokens ++ [token]) = inner.step? token := by
  rw [at?_append, found, Option.bind_some, at?]
  cases inner.step? token <;> rfl

/-- The value that a pointer names, as RFC 6901 has it. -/
def pointed? (value : Json) (pointer : String) : Option Json :=
  (Pointer.decode? pointer).bind value.at?

theorem pointed?_foldl_child (value : Json) (tokens : List String) :
    value.pointed? (tokens.foldl Pointer.child "") = value.at? tokens := by
  rw [pointed?, Pointer.decode?_foldl_child, Option.bind_some]

end Json

end MockData
