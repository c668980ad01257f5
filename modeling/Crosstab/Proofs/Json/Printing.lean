import Crosstab.Json.Tree
import Crosstab.Proofs.Json.Scanning

/-!
# Written JSON reads back

A tree has one list of tokens, from which it is read again; and both written forms of a value spell
the tokens of the tree that stands for it. So what is read from either form is that tree.

    value ──Denotes── tree ──tokens──▶ tokens ◀──Token.scan── text ◀──compact, pretty── value
                                       tokens ──ofTokens?──▶ tree
-/

namespace Crosstab.Json

open Decimal (Numeral isDigit)

namespace Tree

/-! ### Trees from their tokens -/

mutual

/-- The tokens of a tree. -/
def tokens : Tree → List Token
  | .null => [.null]
  | .bool b => [.bool b]
  | .numeral n => [.numeral n]
  | .string text => [.string text]
  | .array items => .openArray :: (itemsTokens items ++ [.closeArray])
  | .object members => .openObject :: (membersTokens members ++ [.closeObject])

/-- The tokens of items, with commas between them. -/
def itemsTokens : List Tree → List Token
  | [] => []
  | [item] => item.tokens
  | item :: next :: rest => item.tokens ++ .comma :: itemsTokens (next :: rest)

/-- The tokens of members, with commas between them. -/
def membersTokens : List (Option String × Tree) → List Token
  | [] => []
  | [(name, value)] => .string name :: .colon :: value.tokens
  | (name, value) :: next :: rest =>
    .string name :: .colon :: value.tokens ++ .comma :: membersTokens (next :: rest)

end

/-- Reading tokens leads from one state to another. -/
def Leads (state : State) (tokens : List Token) (after : State) : Prop :=
  tokens.foldlM State.step state = some after

theorem Leads.cons {state middle after : State} {token : Token} {tokens : List Token}
    (h : state.step token = some middle) (h' : Leads middle tokens after) :
    Leads state (token :: tokens) after := by
  unfold Leads
  rw [List.foldlM_cons, h]
  exact h'

theorem Leads.append {state middle after : State} {tokens others : List Token}
    (h : Leads state tokens middle) (h' : Leads middle others after) :
    Leads state (tokens ++ others) after := by
  unfold Leads at h
  unfold Leads
  rw [List.foldlM_append, h]
  exact h'

theorem Leads.one {state after : State} {token : Token} (h : state.step token = some after) :
    Leads state [token] after :=
  .cons h rfl

/-- A state in which a value may start: one is expected, or the first item of an array. -/
def awaits (frames : List Frame) : State → Prop
  | .expectValue expected => expected = frames
  | .expectItem outer => .array [] :: outer = frames
  | _ => False

theorem step_of_awaits {frames : List Frame} {state after : State} (h : awaits frames state)
    {token : Token} (hclose : token ≠ .closeArray)
    (hstart : State.startValue frames token = some after) : state.step token = some after := by
  unfold awaits at h
  split at h
  · subst h
    exact hstart
  · subst h
    unfold State.step
    split <;> first
      | exact hstart
      | simp_all
  · exact h.elim

mutual

/-- The tokens of a tree are read as the tree, in whatever array or object. -/
theorem leads_tokens (tree : Tree) {frames : List Frame} {state : State}
    (h : awaits frames state) : Leads state tree.tokens (.behind tree frames) := by
  match tree with
  | .null => exact .one (step_of_awaits h (by simp) rfl)
  | .bool b => exact .one (step_of_awaits h (by simp) rfl)
  | .numeral n => exact .one (step_of_awaits h (by simp) rfl)
  | .string text => exact .one (step_of_awaits h (by simp) rfl)
  | .array items =>
    rw [tokens]
    refine .cons (step_of_awaits h (by simp) rfl) ?_
    match items with
    | [] => exact .one rfl
    | item :: rest => exact leads_itemsTokens [] item rest rfl
  | .object members =>
    rw [tokens]
    refine .cons (step_of_awaits h (by simp) rfl) ?_
    match members with
    | [] => exact .one rfl
    | (name, value) :: rest =>
      exact leads_membersTokens [] name value rest (.inl ⟨rfl, rfl⟩)
termination_by sizeOf tree

theorem leads_itemsTokens (read : List Tree) (item : Tree) (rest : List Tree)
    {frames : List Frame} {state : State} (h : awaits (.array read :: frames) state) :
    Leads state (itemsTokens (item :: rest) ++ [.closeArray])
      (.behind (.array (read.reverse ++ item :: rest)) frames) := by
  have hitem := leads_tokens item h
  match rest with
  | [] =>
    rw [itemsTokens]
    refine hitem.append (.one ?_)
    simp [State.step]
  | next :: rest =>
    rw [itemsTokens, List.append_assoc, List.cons_append]
    refine hitem.append (.cons rfl ?_)
    have hnext : Leads (.expectValue (.array (item :: read) :: frames)) _ _ :=
      leads_itemsTokens (item :: read) next rest rfl
    simpa using hnext
termination_by sizeOf (item :: rest)

theorem leads_membersTokens (read : List (Option String × Tree)) (name : Option String)
    (value : Tree) (rest : List (Option String × Tree)) {frames : List Frame} {state : State}
    (h : state = .expectMember frames ∧ read = [] ∨ state = .expectName read frames) :
    Leads state (membersTokens ((name, value) :: rest) ++ [.closeObject])
      (.behind (.object (read.reverse ++ (name, value) :: rest)) frames) := by
  have hname : state.step (.string name) = some (.expectColon read name frames) := by
    rcases h with ⟨rfl, rfl⟩ | rfl <;> rfl
  have hvalue : Leads (.expectValue (.object read name :: frames)) value.tokens _ :=
    leads_tokens value rfl
  match rest with
  | [] =>
    rw [membersTokens]
    refine .cons hname (.cons rfl (hvalue.append (.one ?_)))
    simp [State.step]
  | (other, next) :: rest =>
    rw [membersTokens, List.append_assoc]
    refine .cons hname (.cons rfl (hvalue.append (.cons rfl ?_)))
    have hnext : Leads (.expectName ((name, value) :: read) frames) _ _ :=
      leads_membersTokens ((name, value) :: read) other next rest (.inr rfl)
    simpa using hnext
termination_by sizeOf ((name, value) :: rest)

end

/-- A tree is read from its tokens. -/
theorem ofTokens?_tokens (tree : Tree) : ofTokens? tree.tokens = some tree := by
  have h : tree.tokens.foldlM State.step (.expectValue []) = some (.behind tree []) :=
    leads_tokens tree rfl
  rw [ofTokens?, h]

/-- A text that spells the tokens of a tree is read as that tree. -/
theorem parse?_of_spells {cs : List Char} {tree : Tree} (h : Spells cs tree.tokens) :
    parse? (String.ofList cs) = some tree := by
  rw [parse?, String.toList_ofList, h.scan, Option.bind_some, ofTokens?_tokens]

end Tree

/-! ### What brackets, commas and names add -/

section

variable {cs ds : List Char} {tokens others : List Token}

theorem Spells.between (blanks : List Char) {start stop : Char} {first last : Token}
    (h : Spells cs tokens)
    (hstart : isSeparator start = false)
    (hfirst : ∀ rest, Token.scanOne (start :: rest) = some (first, rest))
    (hstop : isSeparator stop = false)
    (hlast : ∀ rest, Token.scanOne (stop :: rest) = some (last, rest))
    (hblanks : ∀ c ∈ blanks, isSeparator c = true) (hapart : Apart (blanks ++ [stop])) :
    Spells (start :: cs ++ blanks ++ [stop]) (first :: (tokens ++ [last])) := by
  have hclose : Spells (blanks ++ [stop]) [last] :=
    (spells_nil.behind hstop hlast).separated hblanks
  rw [List.cons_append, List.cons_append, List.append_assoc]
  exact (h.append hclose hapart).behind hstart hfirst

theorem Spells.inArray (blanks : List Char) (h : Spells cs tokens)
    (hblanks : ∀ c ∈ blanks, isSeparator c = true) (hapart : Apart (blanks ++ [']'])) :
    Spells ('[' :: cs ++ blanks ++ [']']) (.openArray :: (tokens ++ [.closeArray])) :=
  h.between blanks (by decide) (fun _ => rfl) (by decide) (fun _ => rfl) hblanks hapart

theorem Spells.inObject (blanks : List Char) (h : Spells cs tokens)
    (hblanks : ∀ c ∈ blanks, isSeparator c = true) (hapart : Apart (blanks ++ ['}'])) :
    Spells ('{' :: cs ++ blanks ++ ['}']) (.openObject :: (tokens ++ [.closeObject])) :=
  h.between blanks (by decide) (fun _ => rfl) (by decide) (fun _ => rfl) hblanks hapart

theorem Spells.comma (h : Spells cs tokens) (h' : Spells ds others) :
    Spells (cs ++ ',' :: ds) (tokens ++ .comma :: others) :=
  h.append (h'.behind (by decide) fun _ => rfl) (apart_cons (by decide) ds)

theorem Spells.named {name : Option String} (h : Spells cs [.string name])
    (h' : Spells ds others) : Spells (cs ++ ':' :: ds) (.string name :: .colon :: others) :=
  h.append (h'.behind (by decide) fun _ => rfl) (apart_cons (by decide) _)

end

/-! ### Values and their trees -/

mutual

/-- The tree of a value. A number has any numeral that its text spells. -/
inductive Denotes : Json → Tree → Prop
  | null : Denotes .null .null
  | bool (b : Bool) : Denotes (.bool b) (.bool b)
  | number {n : Number} {numeral : Numeral} (h : Spells n.text.toList [.numeral numeral]) :
    Denotes (.number n) (.numeral numeral)
  | string (s : String) : Denotes (.string s) (.string (some s))
  | array {items : List Json} {trees : List Tree} (h : DenoteItems items trees) :
    Denotes (.array items) (.array trees)
  | object {fields : List (String × Json)} {members : List (Option String × Tree)}
    (h : DenoteFields fields members) : Denotes (.object fields) (.object members)

/-- The trees of items. -/
inductive DenoteItems : List Json → List Tree → Prop
  | nil : DenoteItems [] []
  | cons {item : Json} {tree : Tree} {items : List Json} {trees : List Tree}
    (h : Denotes item tree) (h' : DenoteItems items trees) :
    DenoteItems (item :: items) (tree :: trees)

/-- The members of fields. -/
inductive DenoteFields : List (String × Json) → List (Option String × Tree) → Prop
  | nil : DenoteFields [] []
  | cons (name : String) {value : Json} {tree : Tree} {fields : List (String × Json)}
    {members : List (Option String × Tree)} (h : Denotes value tree)
    (h' : DenoteFields fields members) :
    DenoteFields ((name, value) :: fields) ((some name, tree) :: members)

end

/-- An integer of 64 bits is written in digits. -/
theorem denotes_ofInt {n : Int} (h : -2 ^ 63 ≤ n ∧ n < 2 ^ 64) :
    (ofInt n).Denotes (.numeral (numeralOf n)) := by
  rw [ofInt, dif_pos h]
  exact .number (spells_numeral (writesNumeral_toString n))

/-! ### The compact form -/

mutual

theorem Denotes.spells_compactChars {value : Json} {tree : Tree} (h : Denotes value tree) :
    Spells (compactChars value) tree.tokens := by
  cases h with
  | null => exact spells_token (by decide) fun _ _ => rfl
  | bool b => cases b <;> exact spells_token (by decide) fun _ _ => rfl
  | number h => exact h
  | string s => exact spells_quoteString s
  | array h =>
    have hitems := h.spells_compactItems.inArray [] (by simp)
      (apart_cons (by decide) [])
    rwa [List.append_nil] at hitems
  | object h =>
    have hfields := h.spells_compactFields.inObject [] (by simp)
      (apart_cons (by decide) [])
    rwa [List.append_nil] at hfields

theorem DenoteItems.spells_compactItems {items : List Json} {trees : List Tree}
    (h : DenoteItems items trees) : Spells (compactItems items) (Tree.itemsTokens trees) := by
  cases h with
  | nil => exact spells_nil
  | cons h hrest =>
    have hitem := h.spells_compactChars
    cases hrest with
    | nil => exact hitem
    | cons hnext hrest => exact hitem.comma (DenoteItems.cons hnext hrest).spells_compactItems

theorem DenoteFields.spells_compactFields {fields : List (String × Json)}
    {members : List (Option String × Tree)} (h : DenoteFields fields members) :
    Spells (compactFields fields) (Tree.membersTokens members) := by
  cases h with
  | nil => exact spells_nil
  | cons name h hrest =>
    have hfield := (spells_quoteString name).named h.spells_compactChars
    cases hrest with
    | nil => exact hfield
    | cons other hnext hrest =>
      exact hfield.comma (DenoteFields.cons other hnext hrest).spells_compactFields

end

/-! ### The pretty form -/

theorem isSeparator_of_mem_newLine (level : Nat) :
    ∀ c ∈ newLine level, isSeparator c = true := by
  simp [newLine, isSeparator]

mutual

theorem Denotes.spells_prettyChars {value : Json} {tree : Tree} (h : Denotes value tree)
    (level : Nat) : Spells (prettyChars level value) tree.tokens := by
  cases h with
  | null => exact Denotes.null.spells_compactChars
  | bool b => exact (Denotes.bool b).spells_compactChars
  | number h => exact (Denotes.number h).spells_compactChars
  | string s => exact (Denotes.string s).spells_compactChars
  | array h =>
    cases h with
    | nil => exact (Denotes.array .nil).spells_compactChars
    | cons h hrest =>
      exact ((DenoteItems.cons h hrest).spells_prettyItems level).inArray (newLine level)
        (isSeparator_of_mem_newLine level) (apart_cons (by decide) _)
  | object h =>
    cases h with
    | nil => exact (Denotes.object .nil).spells_compactChars
    | cons name h hrest =>
      exact ((DenoteFields.cons name h hrest).spells_prettyFields level).inObject (newLine level)
        (isSeparator_of_mem_newLine level) (apart_cons (by decide) _)

theorem DenoteItems.spells_prettyItems {items : List Json} {trees : List Tree}
    (h : DenoteItems items trees) (level : Nat) :
    Spells (prettyItems level items) (Tree.itemsTokens trees) := by
  cases h with
  | nil => exact spells_nil
  | cons h hrest =>
    have hitem := (h.spells_prettyChars (level + 1)).separated
      (isSeparator_of_mem_newLine (level + 1))
    cases hrest with
    | nil => exact hitem
    | cons hnext hrest =>
      exact hitem.comma ((DenoteItems.cons hnext hrest).spells_prettyItems level)

theorem DenoteFields.spells_prettyFields {fields : List (String × Json)}
    {members : List (Option String × Tree)} (h : DenoteFields fields members) (level : Nat) :
    Spells (prettyFields level fields) (Tree.membersTokens members) := by
  cases h with
  | nil => exact spells_nil
  | cons name h hrest =>
    have hblank : ∀ c ∈ [' '], isSeparator c = true := by simp [isSeparator]
    have hvalue := (h.spells_prettyChars (level + 1)).separated hblank
    have hfield := ((spells_quoteString name).named hvalue).separated
      (isSeparator_of_mem_newLine (level + 1))
    cases hrest with
    | nil => simpa [prettyFields, Tree.membersTokens] using hfield
    | cons other hnext hrest =>
      have hfields :=
        hfield.comma ((DenoteFields.cons other hnext hrest).spells_prettyFields level)
      simpa [prettyFields, Tree.membersTokens] using hfields

end

/-! ### Both forms read back -/

/-- Both written forms of a value are read as the tree that it denotes. -/
theorem Denotes.parse? {value : Json} {tree : Tree} (h : Denotes value tree) :
    Tree.parse? value.compact = some tree ∧ Tree.parse? value.pretty = some tree :=
  ⟨Tree.parse?_of_spells h.spells_compactChars, Tree.parse?_of_spells (h.spells_prettyChars 0)⟩

end Crosstab.Json
