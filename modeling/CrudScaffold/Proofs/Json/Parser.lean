import CrudScaffold.Json.Parser
import CrudScaffold.Proofs.Json.Token

/-!
# Trees of written values

A document is parsed from its tokens, one value at a time: whatever is open when the tokens of a
value begin is still open behind them, and the value is complete (`build_tree`). The items of an
array and the members of an object are collected in reverse on the stack and are in order again when
their container is closed. So the text of a value is parsed as the tree of the value, with nothing
broken off and nothing left over.
-/

namespace CrudScaffold.Json

/-! ### Tokens of trees -/

namespace Tree

mutual

/-- The tokens of a tree. -/
def tokens : Tree → List Token
  | .null => [.null]
  | .bool b => [.bool b]
  | .number n fault => [.number n fault]
  | .string s => [.string s]
  | .array [] _ => [.openArray, .closeArray]
  | .array (t :: ts) _ => .openArray :: tokens t ++ itemTokens ts ++ [.closeArray]
  | .object [] _ => [.openObject, .closeObject]
  | .object ((k, t) :: ms) _ =>
    .openObject :: .string k :: .colon :: tokens t ++ memberTokens ms ++ [.closeObject]
  | .keyless _ | .word _ | .absent _ => [.stray]

/-- The tokens of the items of an array behind the first one. -/
def itemTokens : List Tree → List Token
  | [] => []
  | t :: ts => .comma :: tokens t ++ itemTokens ts

/-- The tokens of the members of an object behind the first one. -/
def memberTokens : List (StringLiteral × Tree) → List Token
  | [] => []
  | (k, t) :: ms => .comma :: .string k :: .colon :: tokens t ++ memberTokens ms

end

/-- A value that is well formed to its end. -/
def Complete (t : Tree) : Prop := t.skipFault = none

/-- An array is complete if its items are and it has been closed. -/
lemma complete_array {items : List Tree} {fault : Option Fault} :
    (Tree.array items fault).Complete ↔ (∀ t ∈ items, t.Complete) ∧ fault = none := by
  have hitems : ∀ ts : List Tree, skipItems ts = none ↔ ∀ t ∈ ts, t.Complete := by
    intro ts
    induction ts with
    | nil => simp [skipItems]
    | cons t ts ih => simp [skipItems, Complete, ih]
  simp only [Complete, skipFault, Option.orElse_eq_orElse, Option.orElse_eq_or,
    Option.or_eq_none_iff, hitems]

/-- An object is complete if its keys and values are and it has been closed. -/
lemma complete_object {members : List (StringLiteral × Tree)} {fault : Option Fault} :
    (Tree.object members fault).Complete ↔
      (∀ m ∈ members, m.1.fault = none ∧ m.2.Complete) ∧ fault = none := by
  have hmembers : ∀ ms : List (StringLiteral × Tree),
      skipMembers ms = none ↔ ∀ m ∈ ms, m.1.fault = none ∧ m.2.Complete := by
    intro ms
    induction ms with
    | nil => simp [skipMembers]
    | cons m ms ih => simp [skipMembers, Complete, ih, and_assoc]
  simp only [Complete, skipFault, Option.orElse_eq_orElse, Option.orElse_eq_or,
    Option.or_eq_none_iff, hmembers]

end Tree

open Tree

/-! ### Steps of the parser -/

section Steps

variable (frames : List Frame) (rest : List Token)

/-- A bracket opens an array where a value is expected. -/
lemma build_openArray :
    build frames .value (.openArray :: rest) = build (.array [] :: frames) .item rest := by
  cases frames <;> rfl

/-- A brace opens an object where a value is expected. -/
lemma build_openObject :
    build frames .value (.openObject :: rest) = build frames (.key []) rest := by
  cases frames <;> rfl

/-- Any other token is a value by itself. -/
lemma build_scalar {token : Token} (harray : token ≠ .openArray) (hobject : token ≠ .openObject) :
    build frames .value (token :: rest) = build frames (.next token.lead) rest := by
  cases token with
  | openArray => exact absurd rfl harray
  | openObject => exact absurd rfl hobject
  | _ => cases frames <;> rfl

@[simp] lemma build_item_closeArray :
    build (.array [] :: frames) .item (.closeArray :: rest) =
      build frames (.next (.array [] none)) rest := rfl

/-- An object without members is closed at once. -/
lemma build_key_closeObject :
    build frames (.key []) (.closeObject :: rest) =
      build frames (.next (.object [] none)) rest := by
  cases frames <;> rfl

/-- Where an item is expected, a token that does not close the array begins a value. -/
lemma build_item {token : Token} (h : token ≠ .closeArray) :
    build frames .item (token :: rest) = build frames .value (token :: rest) := by
  cases token with
  | closeArray => exact absurd rfl h
  | _ => cases frames <;> rfl

/-- A key and a colon come before the value of a member. -/
lemma build_key (members : List (StringLiteral × Tree)) (s : StringLiteral) :
    build frames (.key members) (.string s :: .colon :: rest) =
      build (.object members s :: frames) .value rest := by
  cases frames <;> rfl

variable (items : List Tree) (members : List (StringLiteral × Tree)) (key : StringLiteral)
  (t : Tree)

@[simp] lemma build_comma_item :
    build (.array items :: frames) (.next t) (.comma :: rest) =
      build (.array (t :: items) :: frames) .value rest := rfl

/-- A bracket behind an item closes the array. -/
lemma build_closeArray :
    build (.array items :: frames) (.next t) (.closeArray :: rest) =
      build frames (.next (.array (items.reverse ++ [t]) none)) rest := by
  rw [← List.reverse_cons]
  rfl

@[simp] lemma build_comma_member :
    build (.object members key :: frames) (.next t) (.comma :: rest) =
      build frames (.key ((key, t) :: members)) rest := rfl

/-- A brace behind a member closes the object. -/
lemma build_closeObject :
    build (.object members key :: frames) (.next t) (.closeObject :: rest) =
      build frames (.next (.object (members.reverse ++ [(key, t)]) none)) rest := by
  rw [← List.reverse_cons]
  rfl

end Steps

/-! ### Complete values -/

/-- No value begins with a closing bracket. -/
lemma Tree.exists_tokens_eq_cons (t : Tree) :
    ∃ token rest, t.tokens = token :: rest ∧ token ≠ .closeArray := by
  unfold Tree.tokens
  split <;> exact ⟨_, _, rfl, by simp⟩

/-- The first item of an array is a value like any other. -/
lemma build_item_tokens (frames : List Frame) (t : Tree) (rest : List Token) :
    build frames .item (t.tokens ++ rest) = build frames .value (t.tokens ++ rest) := by
  obtain ⟨token, more, htokens, htoken⟩ := t.exists_tokens_eq_cons
  rw [htokens, List.cons_append, build_item frames _ htoken]

mutual

/-- The tokens of a complete value become the value, whatever is open around it. -/
lemma build_tree (frames : List Frame) (rest : List Token) : ∀ t : Tree, t.Complete →
    build frames .value (t.tokens ++ rest) = build frames (.next t) rest
  | .null, _ => build_scalar _ _ Token.noConfusion Token.noConfusion
  | .bool _, _ => build_scalar _ _ Token.noConfusion Token.noConfusion
  | .number _ _, _ => build_scalar _ _ Token.noConfusion Token.noConfusion
  | .string _, _ => build_scalar _ _ Token.noConfusion Token.noConfusion
  | .array [] fault, h => by
    obtain rfl : fault = none := (complete_array.mp h).2
    exact (build_openArray _ _).trans (build_item_closeArray _ _)
  | .array (t :: ts) fault, h => by
    obtain ⟨hitems, rfl⟩ := complete_array.mp h
    obtain ⟨ht, hts⟩ := List.forall_mem_cons.mp hitems
    simp only [Tree.tokens, List.cons_append, List.append_assoc, List.nil_append]
    rw [build_openArray, build_item_tokens, build_tree _ _ t ht, build_items _ _ _ _ ts hts]
    rfl
  | .object [] fault, h => by
    obtain rfl : fault = none := (complete_object.mp h).2
    exact (build_openObject _ _).trans (build_key_closeObject _ _)
  | .object ((k, t) :: ms) fault, h => by
    obtain ⟨hmembers, rfl⟩ := complete_object.mp h
    obtain ⟨ht, hms⟩ := List.forall_mem_cons.mp hmembers
    simp only [Tree.tokens, List.cons_append, List.append_assoc, List.nil_append]
    rw [build_openObject, build_key, build_tree _ _ t ht.2, build_members _ _ _ _ _ ms hms]
    rfl
  | .keyless _, h => nomatch h
  | .word _, h => nomatch h
  | .absent _, h => nomatch h

/-- The items of an array behind one that is complete, up to the end of the array. -/
lemma build_items (frames : List Frame) (rest : List Token) (items : List Tree) (t : Tree) :
    ∀ ts : List Tree, (∀ t ∈ ts, t.Complete) →
      build (.array items :: frames) (.next t) (itemTokens ts ++ .closeArray :: rest) =
        build frames (.next (.array (items.reverse ++ t :: ts) none)) rest
  | [], _ => build_closeArray _ _ _ _
  | u :: ts, h => by
    obtain ⟨hu, hts⟩ := List.forall_mem_cons.mp h
    simp only [itemTokens, List.cons_append, List.append_assoc]
    rw [build_comma_item, build_tree _ _ u hu, build_items _ _ _ _ ts hts, List.reverse_cons,
      List.append_assoc]
    rfl

/-- The members of an object behind one that is complete, up to the end of the object. -/
lemma build_members (frames : List Frame) (rest : List Token)
    (members : List (StringLiteral × Tree)) (key : StringLiteral) (t : Tree) :
    ∀ ms : List (StringLiteral × Tree), (∀ m ∈ ms, m.1.fault = none ∧ m.2.Complete) →
      build (.object members key :: frames) (.next t) (memberTokens ms ++ .closeObject :: rest) =
        build frames (.next (.object (members.reverse ++ (key, t) :: ms) none)) rest
  | [], _ => build_closeObject _ _ _ _ _
  | (k, u) :: ms, h => by
    obtain ⟨hu, hms⟩ := List.forall_mem_cons.mp h
    simp only [memberTokens, List.cons_append, List.append_assoc]
    rw [build_comma_member, build_key, build_tree _ _ u hu.2, build_members _ _ _ _ _ ms hms,
      List.reverse_cons, List.append_assoc]
    rfl

end


/-! ### Written values -/

namespace Value

mutual

/-- The tree of a value. -/
def tree : Value → Tree
  | .null => .null
  | .bool b => .bool b
  | .number n => .number (.ofNat n) none
  | .string s => .string (.ofString s)
  | .array vs => .array (trees vs) none
  | .object ms => .object (memberTrees ms) none

/-- The trees of the items of an array. -/
def trees : List Value → List Tree
  | [] => []
  | v :: vs => tree v :: trees vs

/-- The trees of the members of an object, with their keys. -/
def memberTrees : List (String × Value) → List (StringLiteral × Tree)
  | [] => []
  | (k, v) :: ms => (.ofString k, tree v) :: memberTrees ms

end

/-- The trees of some values one by one. -/
lemma trees_eq_map (vs : List Value) : trees vs = vs.map tree := by
  induction vs with
  | nil => rfl
  | cons v vs ih => rw [trees, ih, List.map_cons]

mutual

/-- The tokens of a value are those of its tree. -/
lemma tokens_tree : ∀ v : Value, v.tree.tokens = v.tokens
  | .null | .bool _ | .number _ | .string _ | .array [] | .object [] => rfl
  | .array (v :: vs) => by
    rw [tree, trees, Tree.tokens, tokens_tree v, itemTokens_trees vs, tokens]
  | .object ((k, v) :: ms) => by
    rw [tree, memberTrees, Tree.tokens, tokens_tree v, memberTokens_memberTrees ms, tokens]

/-- The tokens of the items of an array are those of their trees. -/
lemma itemTokens_trees : ∀ vs : List Value, Tree.itemTokens (trees vs) = itemTokens vs
  | [] => rfl
  | v :: vs => by rw [trees, Tree.itemTokens, tokens_tree v, itemTokens_trees vs, itemTokens]

/-- The tokens of the members of an object are those of their trees. -/
lemma memberTokens_memberTrees : ∀ ms : List (String × Value),
    Tree.memberTokens (memberTrees ms) = memberTokens ms
  | [] => rfl
  | (k, v) :: ms => by
    rw [memberTrees, Tree.memberTokens, tokens_tree v, memberTokens_memberTrees ms, memberTokens]

end

mutual

/-- Written values are complete. -/
lemma skipFault_tree : ∀ v : Value, v.tree.skipFault = none
  | .null | .bool _ | .number _ | .string _ => rfl
  | .array vs => by rw [tree, Tree.skipFault, skipItems_trees vs]; rfl
  | .object ms => by rw [tree, Tree.skipFault, skipMembers_memberTrees ms]; rfl

/-- The items of written arrays are complete. -/
lemma skipItems_trees : ∀ vs : List Value, Tree.skipItems (trees vs) = none
  | [] => rfl
  | v :: vs => by rw [trees, Tree.skipItems, skipFault_tree v, skipItems_trees vs]; rfl

/-- The members of written objects are complete. -/
lemma skipMembers_memberTrees : ∀ ms : List (String × Value),
    Tree.skipMembers (memberTrees ms) = none
  | [] => rfl
  | (k, v) :: ms => by
    rw [memberTrees, Tree.skipMembers, skipFault_tree v, skipMembers_memberTrees ms]
    rfl

end

end Value

/-- The text of a value is a document that holds the tree of the value and nothing else. -/
lemma parse_pretty (v : Value) : parse v.pretty = ⟨v.tree, false⟩ := by
  rw [parse, Value.tokens_pretty, ← v.tokens_tree, ← List.append_nil v.tree.tokens,
    build_tree [] [] v.tree v.skipFault_tree, build]
  rfl

end CrudScaffold.Json
