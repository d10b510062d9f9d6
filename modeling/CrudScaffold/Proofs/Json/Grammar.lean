import CrudScaffold.Proofs.Json.Lexeme
import CrudScaffold.Proofs.Json.Parser

/-!
# The grammar of documents

A text is a JSON document of some value if its lexemes are the tokens of the value, with any blanks
around them. Reading a text gives a value without a fault if and only if the text is a document of
that value (`parse_eq_iff`). One direction puts the tokens of a value together again; for the other
one, what has been read so far is written down next to every state of the parser, and where a
complete value comes out at the end, nothing has been dropped on the way.
-/

namespace CrudScaffold.Json

open Tree

/-! ### Tokens of complete values -/

/-- A text without a fault is a well formed token. -/
lemma isBroken_string {s : StringLiteral} (h : s.fault = none) :
    (Token.string s).isBroken = false := by
  rw [Token.isBroken, h]
  rfl

mutual

/-- The tokens of a complete value are well formed. -/
lemma isBroken_of_mem_tokens : ∀ t : Tree, t.Complete → ∀ token ∈ t.tokens, token.isBroken = false
  | .null, _ => by simp [Tree.tokens, Token.isBroken]
  | .bool _, _ => by simp [Tree.tokens, Token.isBroken]
  | .number _ fault, h => by
    obtain rfl : fault = none := by simpa [Complete, skipFault] using h
    simp [Tree.tokens, Token.isBroken]
  | .string s, h => by
    simp [Tree.tokens, isBroken_string h]
  | .array [] _, _ => by simp [Tree.tokens, Token.isBroken]
  | .array (t :: ts) _, h => by
    obtain ⟨ht, hts⟩ := List.forall_mem_cons.mp (complete_array.mp h).1
    have hitem := isBroken_of_mem_tokens t ht
    have hitems := isBroken_of_mem_itemTokens ts hts
    simp only [Tree.tokens, List.cons_append, List.append_assoc, List.forall_mem_cons,
      List.forall_mem_append]
    exact ⟨rfl, hitem, hitems, rfl, nofun⟩
  | .object [] _, _ => by simp [Tree.tokens, Token.isBroken]
  | .object ((k, t) :: ms) _, h => by
    obtain ⟨⟨hk, ht⟩, hms⟩ := List.forall_mem_cons.mp (complete_object.mp h).1
    have hkey := isBroken_string hk
    have hmember := isBroken_of_mem_tokens t ht
    have hmembers := isBroken_of_mem_memberTokens ms hms
    simp only [Tree.tokens, List.cons_append, List.append_assoc, List.forall_mem_cons,
      List.forall_mem_append]
    exact ⟨rfl, hkey, rfl, hmember, hmembers, rfl, nofun⟩
  | .keyless _, h => nomatch h
  | .word _, h => nomatch h
  | .absent _, h => nomatch h

/-- The tokens of complete items are well formed. -/
lemma isBroken_of_mem_itemTokens : ∀ ts : List Tree, (∀ t ∈ ts, t.Complete) →
    ∀ token ∈ itemTokens ts, token.isBroken = false
  | [], _ => by simp [itemTokens]
  | t :: ts, h => by
    obtain ⟨ht, hts⟩ := List.forall_mem_cons.mp h
    have hitem := isBroken_of_mem_tokens t ht
    have hitems := isBroken_of_mem_itemTokens ts hts
    simp only [itemTokens, List.cons_append, List.forall_mem_cons, List.forall_mem_append]
    exact ⟨rfl, hitem, hitems⟩

/-- The tokens of complete members are well formed. -/
lemma isBroken_of_mem_memberTokens : ∀ ms : List (StringLiteral × Tree),
    (∀ m ∈ ms, m.1.fault = none ∧ m.2.Complete) →
      ∀ token ∈ memberTokens ms, token.isBroken = false
  | [], _ => by simp [memberTokens]
  | (k, t) :: ms, h => by
    obtain ⟨⟨hk, ht⟩, hms⟩ := List.forall_mem_cons.mp h
    have hkey := isBroken_string hk
    have hmember := isBroken_of_mem_tokens t ht
    have hmembers := isBroken_of_mem_memberTokens ms hms
    simp only [memberTokens, List.cons_append, List.forall_mem_cons, List.forall_mem_append]
    exact ⟨rfl, hkey, rfl, hmember, hmembers⟩

end

/-! ### What has been read -/

/-- The tokens of the members of an object so far, each with its comma. -/
def readMemberTokens (members : List (StringLiteral × Tree)) : List Token :=
  members.reverse.flatMap fun m => .string m.1 :: .colon :: m.2.tokens ++ [.comma]

/-- The tokens that opened arrays and objects and filled them so far. -/
def readTokens : List Frame → List Token
  | [] => []
  | .array items :: frames =>
    readTokens frames ++ .openArray :: items.reverse.flatMap (·.tokens ++ [.comma])
  | .object members key :: frames =>
    readTokens frames ++ .openObject :: readMemberTokens members ++ [.string key, .colon]

/-- The tokens that led to an expectation. -/
def readTokensTo (frames : List Frame) : Expectation → List Token
  | .value | .item => readTokens frames
  | .key members => readTokens frames ++ .openObject :: readMemberTokens members
  | .colon members key =>
    readTokens frames ++ .openObject :: readMemberTokens members ++ [.string key]
  | .next t => readTokens frames ++ t.tokens

/-- What is closed with a fault is not complete. -/
lemma not_complete_breakOff (fault : Fault) {frames : List Frame} {t : Tree}
    (h : frames ≠ [] ∨ ¬ t.Complete) : ¬ (breakOff fault frames t).Complete := by
  induction frames generalizing t with
  | nil => exact h.resolve_left (absurd rfl)
  | cons frame frames ih =>
    cases frame with
    | array items => exact ih (.inr fun ht => nomatch (complete_array.mp ht).2)
    | object members key => exact ih (.inr fun ht => nomatch (complete_object.mp ht).2)

/-- Where an expectation is not met, no complete value has been read. -/
lemma not_complete_stop (fault : Fault) {frames : List Frame} {expected : Expectation}
    (h : ∀ t, frames = [] → expected = .next t → False) :
    ¬ (stop fault frames expected).Complete := by
  unfold stop
  split
  · exact not_complete_breakOff fault (.inr nofun)
  · exact not_complete_breakOff fault (.inr nofun)
  · exact not_complete_breakOff fault (.inr nofun)
  · exact not_complete_breakOff fault (.inr fun ht => nomatch (complete_object.mp ht).2)
  · exact not_complete_breakOff fault (.inr fun ht => nomatch (complete_object.mp ht).2)
  · exact not_complete_breakOff fault (.inl fun hframes => h _ hframes rfl)

/-- The items of an array behind the first one, with the commas behind them but for the last. -/
lemma itemTokens_append (ts : List Tree) (t : Tree) :
    itemTokens (ts ++ [t]) = .comma :: ts.flatMap (·.tokens ++ [.comma]) ++ t.tokens := by
  induction ts with
  | nil => simp [itemTokens]
  | cons u ts ih => simp [itemTokens, ih]

/-- The tokens of an array, item by item. -/
lemma tokens_array_reverse (items : List Tree) (t : Tree) (fault : Option Fault) :
    (Tree.array (t :: items).reverse fault).tokens =
      .openArray :: items.reverse.flatMap (·.tokens ++ [.comma]) ++ t.tokens ++ [.closeArray] := by
  rw [List.reverse_cons]
  cases items.reverse with
  | nil => simp [Tree.tokens, itemTokens]
  | cons u us => simp [Tree.tokens, itemTokens_append]

/-- The members of an object behind the first one, with the commas behind them but for the last. -/
lemma memberTokens_append (ms : List (StringLiteral × Tree)) (k : StringLiteral) (t : Tree) :
    memberTokens (ms ++ [(k, t)]) =
      .comma :: ms.flatMap (fun m => .string m.1 :: .colon :: m.2.tokens ++ [.comma]) ++
        .string k :: .colon :: t.tokens := by
  induction ms with
  | nil => simp [memberTokens]
  | cons m ms ih => simp [memberTokens, ih]

/-- The tokens of an object, member by member. -/
lemma tokens_object_reverse (members : List (StringLiteral × Tree)) (k : StringLiteral) (t : Tree)
    (fault : Option Fault) :
    (Tree.object ((k, t) :: members).reverse fault).tokens =
      .openObject :: readMemberTokens members ++ .string k :: .colon :: t.tokens ++
        [.closeObject] := by
  rw [List.reverse_cons, readMemberTokens]
  cases members.reverse with
  | nil => simp [Tree.tokens, memberTokens]
  | cons m ms => simp [Tree.tokens, memberTokens_append]

/-- A token that opens nothing is all of the value that it begins, if it begins one. -/
lemma tokens_lead {token : Token} (harray : token ≠ .openArray) (hobject : token ≠ .openObject) :
    token.lead.tokens = [token] ∨ token.lead.tokens = [.stray] := by
  cases token with
  | openArray => exact absurd rfl harray
  | openObject => exact absurd rfl hobject
  | null => exact .inl rfl
  | bool => exact .inl rfl
  | number => exact .inl rfl
  | string => exact .inl rfl
  | _ => exact .inr rfl

/-- Where a complete document holds what a token is taken for, it holds the token: tokens that begin
no value are taken for a stray one, which no complete document holds. -/
lemma tokens_of_lead {t : Tree} (ht : t.Complete) {token : Token} {front rest : List Token}
    (harray : token ≠ .openArray) (hobject : token ≠ .openObject)
    (h : front ++ token.lead.tokens ++ rest = t.tokens) : front ++ token :: rest = t.tokens := by
  rcases tokens_lead harray hobject with hlead | hlead
  · rw [hlead, List.append_assoc, List.singleton_append] at h
    exact h
  · have hstray : Token.stray ∈ t.tokens := by
      rw [← h, hlead]
      simp
    exact nomatch isBroken_of_mem_tokens t ht _ hstray

/-- A complete document has been read from the tokens of its tree. -/
lemma readTokensTo_append {frames : List Frame} {expected : Expectation} {toks : List Token}
    {t : Tree} (h : build frames expected toks = ⟨t, false⟩) (ht : t.Complete) :
    readTokensTo frames expected ++ toks = t.tokens := by
  fun_induction build frames expected toks with
  | case1 value rest =>
    rw [Document.mk.injEq] at h
    obtain ⟨rfl, hrest⟩ := h
    obtain rfl : rest = [] := by simpa using hrest
    rw [readTokensTo, readTokens, List.nil_append, List.append_nil]
  | case2 frames expected hexpected =>
    cases h
    exact absurd ht (not_complete_stop _ hexpected)
  | case3 frames rest ih =>
    rw [← ih h]
    simp [readTokensTo, readTokens]
  | case4 frames rest ih =>
    rw [← ih h]
    simp [readTokensTo, readMemberTokens]
  | case5 frames rest token harray hobject ih =>
    exact tokens_of_lead ht harray hobject (ih h)
  | case6 rest frames ih =>
    rw [← ih h]
    simp [readTokensTo, readTokens, Tree.tokens]
  | case7 rest frames ih =>
    rw [← ih h]
    simp [readTokensTo, readTokens]
  | case8 rest frames ih =>
    rw [← ih h]
    simp [readTokensTo, readMemberTokens]
  | case9 rest token frames _ harray hobject ih =>
    exact tokens_of_lead ht harray hobject (ih h)
  | case10 frames rest s members ih =>
    rw [← ih h]
    simp [readTokensTo]
  | case11 frames rest ih =>
    rw [← ih h]
    simp [readTokensTo, readMemberTokens, Tree.tokens]
  | case12 frames rest token =>
    cases h
    exact absurd ht (not_complete_breakOff _ (.inr nofun))
  | case13 frames token rest members =>
    cases h
    exact absurd ht (not_complete_stop _ nofun)
  | case14 frames members key rest ih =>
    rw [← ih h]
    simp [readTokensTo, readTokens]
  | case15 frames members key token rest =>
    cases h
    exact absurd ht (not_complete_stop _ nofun)
  | case16 items frames value rest ih =>
    rw [← ih h]
    simp [readTokensTo, readTokens]
  | case17 items frames value rest ih =>
    rw [← ih h, readTokensTo, readTokensTo, tokens_array_reverse]
    simp [readTokens]
  | case18 =>
    cases h
    exact absurd ht (not_complete_breakOff _ (.inr fun h => nomatch (complete_array.mp h).2))
  | case19 members key frames value rest ih =>
    rw [← ih h]
    simp [readTokensTo, readTokens, readMemberTokens]
  | case20 members key frames value rest ih =>
    rw [← ih h, readTokensTo, readTokensTo, tokens_object_reverse]
    simp [readTokens]
  | case21 =>
    cases h
    exact absurd ht (not_complete_breakOff _ (.inr fun h => nomatch (complete_object.mp h).2))

/-! ### Documents -/

mutual

/-- A value has marks behind its numbers if there is a mark behind the value. -/
lemma separated_tokens {rest : List Token} (hrest : Separated rest)
    (hnext : ∀ next ∈ rest.head?, next.isMark) : ∀ t : Tree, Separated (t.tokens ++ rest)
  | .null | .bool _ | .string _ | .keyless _ | .word _ | .absent _ => ⟨nofun, hrest⟩
  | .number _ _ => ⟨fun _ => hnext, hrest⟩
  | .array [] _ => ⟨nofun, nofun, hrest⟩
  | .array (t :: ts) _ => by
    have hclose : Separated (.closeArray :: rest) := ⟨nofun, hrest⟩
    obtain ⟨hitems, hmark⟩ := separated_itemTokens hclose (by rintro _ ⟨⟩; rfl) ts
    simp only [Tree.tokens, List.cons_append, List.append_assoc, List.nil_append]
    exact ⟨nofun, separated_tokens hitems hmark t⟩
  | .object [] _ => ⟨nofun, nofun, hrest⟩
  | .object ((k, t) :: ms) _ => by
    have hclose : Separated (.closeObject :: rest) := ⟨nofun, hrest⟩
    obtain ⟨hmembers, hmark⟩ := separated_memberTokens hclose (by rintro _ ⟨⟩; rfl) ms
    simp only [Tree.tokens, List.cons_append, List.append_assoc, List.nil_append]
    exact ⟨nofun, nofun, nofun, separated_tokens hmembers hmark t⟩

/-- The items of an array have marks behind their numbers. -/
lemma separated_itemTokens {rest : List Token} (hrest : Separated rest)
    (hnext : ∀ next ∈ rest.head?, next.isMark) : ∀ ts : List Tree,
      Separated (itemTokens ts ++ rest) ∧ ∀ next ∈ (itemTokens ts ++ rest).head?, next.isMark
  | [] => ⟨hrest, hnext⟩
  | t :: ts => by
    obtain ⟨hitems, hmark⟩ := separated_itemTokens hrest hnext ts
    simp only [itemTokens, List.cons_append, List.append_assoc]
    exact ⟨⟨nofun, separated_tokens hitems hmark t⟩, by rintro _ ⟨⟩; rfl⟩

/-- The members of an object have marks behind their numbers. -/
lemma separated_memberTokens {rest : List Token} (hrest : Separated rest)
    (hnext : ∀ next ∈ rest.head?, next.isMark) : ∀ ms : List (StringLiteral × Tree),
      Separated (memberTokens ms ++ rest) ∧ ∀ next ∈ (memberTokens ms ++ rest).head?, next.isMark
  | [] => ⟨hrest, hnext⟩
  | (k, t) :: ms => by
    obtain ⟨hmembers, hmark⟩ := separated_memberTokens hrest hnext ms
    simp only [memberTokens, List.cons_append, List.append_assoc]
    exact ⟨⟨nofun, nofun, nofun, separated_tokens hmembers hmark t⟩, by rintro _ ⟨⟩; rfl⟩

end

/-- A text is a document of a value if its lexemes are the tokens of the value, whatever blanks are
around them, and the value goes on to its end. -/
def IsDocument (text : String) (t : Tree) : Prop := Lexed text.toList t.tokens ∧ t.Complete

/-- A text is read as a complete value if and only if it is a document of that value. -/
theorem parse_eq_iff {text : String} {t : Tree} :
    parse text = ⟨t, false⟩ ∧ t.Complete ↔ IsDocument text t := by
  constructor
  · rintro ⟨hparse, ht⟩
    have htokens : tokensOf text.toList = t.tokens := readTokensTo_append hparse ht
    refine ⟨?_, ht⟩
    rw [← htokens]
    refine lexed_tokensOf ?_
    rw [htokens]
    exact isBroken_of_mem_tokens t ht
  · rintro ⟨hlexed, ht⟩
    have hnil : Separated [] := trivial
    have hend : ∀ next ∈ ([] : List Token).head?, next.isMark := by
      rintro _ ⟨⟩
    have hsep : Separated (t.tokens ++ []) := separated_tokens hnil hend t
    rw [List.append_nil] at hsep
    refine ⟨?_, ht⟩
    rw [parse, tokens_eq_tokensOf, hlexed.tokensOf_eq hsep, ← List.append_nil t.tokens,
      build_tree [] [] t ht, build]
    rfl

end CrudScaffold.Json
