import Crosstab.Proofs.Directive
import Crosstab.Proofs.Lookup
import Crosstab.Proofs.Text.Words

/-!
# The language of directives

Which texts are directives, what they say, and which fault decides where a text is none. All of it
is told by the words of the text alone: a text without words is empty, an odd word has no partner,
and of the pairs the first that gives a keyword again is blamed before any keyword that is missing.

    text ──cut into──▶ words ──taken two at a time──▶ pairs ──every keyword once──▶ spec, ignored
-/

namespace Crosstab

/-! ### Keywords -/

namespace Keyword

/-- The word is one of the keywords. -/
def IsName (word : String) : Prop := word ∈ all.map name

instance (word : String) : Decidable (IsName word) :=
  inferInstanceAs (Decidable (word ∈ all.map name))

theorem mem_all (keyword : Keyword) : keyword ∈ all := by cases keyword <;> decide

theorem isName_name (keyword : Keyword) : IsName keyword.name :=
  List.mem_map_of_mem keyword.mem_all

theorem name_injective {keyword other : Keyword} (h : keyword.name = other.name) :
    keyword = other := by
  cases keyword <;> cases other <;> first | rfl | exact absurd h (by decide)

theorem ofToken?_name (keyword : Keyword) : ofToken? keyword.name = some keyword := by
  cases keyword <;> decide

theorem ofToken?_eq_some_iff {token : String} {keyword : Keyword} :
    ofToken? token = some keyword ↔ token = keyword.name := by
  constructor
  · intro h
    have hfound : (keyword.name == token) = true :=
      List.find?_some (p := fun keyword : Keyword => keyword.name == token) h
    exact (beq_iff_eq.1 hfound).symm
  · rintro rfl
    exact ofToken?_name keyword

theorem ofToken?_eq_none_iff {token : String} : ofToken? token = none ↔ ¬ IsName token := by
  constructor
  · intro h hname
    obtain ⟨keyword, -, rfl⟩ := List.mem_map.1 hname
    rw [ofToken?_name] at h
    cases h
  · intro h
    rcases hfound : ofToken? token with _ | keyword
    · rfl
    · rw [ofToken?_eq_some_iff.1 hfound] at h
      exact absurd (isName_name keyword) h

end Keyword

/-- The part of a spec that a keyword gives. -/
def Spec.part (spec : Spec) : Keyword → String
  | .table => spec.target
  | .from => spec.source
  | .row => spec.rowKey
  | .col => spec.pivot
  | .val => spec.value

namespace Directive

/-! ### Pairs -/

/-- The words of pairs, one after the other. -/
def spread (given : List (String × String)) : List String :=
  given.flatMap fun pair => [pair.1, pair.2]

theorem length_spread (given : List (String × String)) :
    (spread given).length = 2 * given.length := by
  induction given with
  | nil => rfl
  | cons pair rest ih =>
    have hstep : spread (pair :: rest) = pair.1 :: pair.2 :: spread rest := rfl
    rw [hstep, List.length_cons, List.length_cons, List.length_cons, ih]
    omega

theorem pairUp_spread (given : List (String × String)) : pairUp (spread given) = .ok given := by
  induction given with
  | nil => rfl
  | cons pair rest ih =>
    show pairUp (pair.1 :: pair.2 :: spread rest) = _
    rw [pairUp, ih]
    rfl

/-- Tokens either come in pairs, or the last one is left over. -/
theorem pairUp_cases (tokens : List String) :
    (∃ given, tokens = spread given) ∨
      ∃ given last, tokens = spread given ++ [last] ∧ pairUp tokens = .error (.dangling last) := by
  induction tokens using pairUp.induct with
  | case1 => exact .inl ⟨[], rfl⟩
  | case2 token => exact .inr ⟨[], token, rfl, rfl⟩
  | case3 key value rest ih =>
    rcases ih with ⟨given, rfl⟩ | ⟨given, last, rfl, hpairs⟩
    · exact .inl ⟨(key, value) :: given, rfl⟩
    · refine .inr ⟨(key, value) :: given, last, rfl, ?_⟩
      rw [pairUp, hpairs]
      rfl

/-! ### Repeated keywords -/

/-- A key behind some pairs gives a keyword that one of them gives already. -/
def Repeats (front : List (String × String)) (key : String) : Prop :=
  Keyword.IsName key ∧ key ∈ front.map Prod.fst

/-- Every keyword is given at most once. -/
def NoRepeat (given : List (String × String)) : Prop :=
  ∀ front pair rest, given = front ++ pair :: rest → ¬ Repeats front pair.1

/-- The first pair that gives a keyword again has this key. -/
def FirstRepeat (given : List (String × String)) (key : String) : Prop :=
  ∃ front value rest, given = front ++ (key, value) :: rest ∧ Repeats front key ∧ NoRepeat front

theorem noRepeat_nil : NoRepeat [] := by
  intro front pair rest h
  simp at h

theorem noRepeat_of_append {front behind : List (String × String)}
    (h : NoRepeat (front ++ behind)) : NoRepeat front := by
  intro before pair rest heq
  refine h before pair (rest ++ behind) ?_
  rw [heq, List.append_assoc, List.cons_append]

theorem noRepeat_concat_iff {front : List (String × String)} {pair : String × String} :
    NoRepeat (front ++ [pair]) ↔ NoRepeat front ∧ ¬ Repeats front pair.1 := by
  constructor
  · exact fun h => ⟨noRepeat_of_append h, h front pair [] rfl⟩
  · rintro ⟨hfront, hlast⟩ before other rest heq
    -- the pair that could repeat a keyword is the last one, or one before it
    rcases List.eq_nil_or_concat rest with rfl | ⟨rest, last, rfl⟩
    · obtain ⟨rfl, hpair⟩ := List.append_inj' heq rfl
      cases hpair
      exact hlast
    · rw [List.concat_eq_append, ← List.cons_append, ← List.append_assoc] at heq
      exact hfront before other rest (List.append_inj' heq rfl).1

theorem FirstRepeat.not_noRepeat {given : List (String × String)} {key : String}
    (h : FirstRepeat given key) : ¬ NoRepeat given := by
  obtain ⟨front, value, rest, rfl, hrepeats, -⟩ := h
  exact fun hnone => hnone front _ rest rfl hrepeats

/-- There is one first pair at most. -/
theorem FirstRepeat.unique {given : List (String × String)} {key other : String}
    (h : FirstRepeat given key) (h' : FirstRepeat given other) : key = other := by
  obtain ⟨front, value, rest, rfl, hrepeats, hfront⟩ := h
  obtain ⟨front', value', rest', heq, hrepeats', hfront'⟩ := h'
  rcases List.append_eq_append_iff.1 heq with ⟨between, rfl, hrest⟩ | ⟨between, rfl, hrest⟩
  · rcases between with _ | ⟨pair, between⟩
    · cases hrest
      rfl
    · cases hrest
      exact absurd hrepeats (hfront' front _ between rfl)
  · rcases between with _ | ⟨pair, between⟩
    · cases hrest
      rfl
    · cases hrest
      exact absurd hrepeats' (hfront front' _ between rfl)

/-! ### Slots -/

/-- The slots hold what pairs give: the first value of each keyword. -/
def Tells (slots : Slots) (given : List (String × String)) : Prop :=
  ∀ keyword : Keyword, slots keyword = given.lookup keyword.name

theorem tells_empty : Tells .empty [] := fun _ => rfl

theorem lookup_concat (front : List (String × String)) (key value name : String) :
    (front ++ [(key, value)]).lookup name =
      (front.lookup name).or (if name = key then some value else none) := by
  rw [List.lookup_append]
  by_cases h : name = key
  · simp [h]
  · have hkey : (name == key) = false := by simpa using h
    simp [List.lookup_cons, h, hkey]

theorem Tells.set {slots : Slots} {front : List (String × String)} {keyword : Keyword}
    (h : Tells slots front) (hnew : slots keyword = none) (value : String) :
    Tells (slots.set keyword value) (front ++ [(keyword.name, value)]) := by
  intro other
  rw [lookup_concat, ← h other, Slots.set]
  by_cases hother : other = keyword
  · subst hother
    simp [hnew]
  · have hname : other.name ≠ keyword.name := fun heq => hother (Keyword.name_injective heq)
    simp [hother, hname]

theorem Tells.skip {slots : Slots} {front : List (String × String)} {key : String}
    (h : Tells slots front) (hkey : ¬ Keyword.IsName key) (value : String) :
    Tells slots (front ++ [(key, value)]) := by
  intro other
  have hname : other.name ≠ key := fun heq => hkey (heq ▸ other.isName_name)
  rw [lookup_concat, ← h other, if_neg hname, Option.or_none]

/-- Assigning goes through the pairs and stops at the first that gives a keyword again. The
induction is on the pairs that are left; the slots hold what the pairs in front of them give. -/
theorem assign_cases {slots : Slots} {front : List (String × String)} (htells : Tells slots front)
    (hfront : NoRepeat front) (rest : List (String × String)) :
    (∃ key, FirstRepeat (front ++ rest) key ∧ assign slots rest = .error (.repeated key)) ∨
      NoRepeat (front ++ rest) ∧ ∃ filled, Tells filled (front ++ rest) ∧
        assign slots rest = .ok (filled, rest.filter isUnknown) := by
  induction rest generalizing slots front with
  | nil =>
    rw [List.append_nil]
    exact .inr ⟨hfront, slots, htells, rfl⟩
  | cons pair rest ih =>
    obtain ⟨key, value⟩ := pair
    have hbehind : front ++ (key, value) :: rest = (front ++ [(key, value)]) ++ rest := by simp
    rcases hkey : Keyword.ofToken? key with _ | keyword
    · have hname := Keyword.ofToken?_eq_none_iff.1 hkey
      have hnext : NoRepeat (front ++ [(key, value)]) :=
        noRepeat_concat_iff.2 ⟨hfront, fun h => hname h.1⟩
      have hunknown : isUnknown (key, value) = true := by simp [isUnknown, hkey]
      rw [hbehind, List.filter_cons_of_pos hunknown]
      rcases ih (htells.skip hname value) hnext with
        ⟨again, hfirst, hassign⟩ | ⟨hnone, filled, hfilled, hassign⟩
      · exact .inl ⟨again, hfirst, by simp [assign, hkey, hassign, bind, Except.bind]⟩
      · refine .inr ⟨hnone, filled, hfilled, ?_⟩
        simp [assign, hkey, hassign, bind, Except.bind, pure, Except.pure]
    · obtain rfl := Keyword.ofToken?_eq_some_iff.1 hkey
      have hknown : isUnknown (keyword.name, value) = false := by simp [isUnknown, hkey]
      have htaken : (slots keyword).isSome = true ↔ keyword.name ∈ front.map Prod.fst := by
        rw [htells keyword, isSome_lookup_iff]
      rcases hslot : slots keyword with _ | given
      · have hnew : keyword.name ∉ front.map Prod.fst := by simpa [hslot] using htaken
        have hnext : NoRepeat (front ++ [(keyword.name, value)]) :=
          noRepeat_concat_iff.2 ⟨hfront, fun h => hnew h.2⟩
        have hstep : assign slots ((keyword.name, value) :: rest) =
            assign (slots.set keyword value) rest := by simp [assign, hkey, hslot]
        rw [hbehind, List.filter_cons_of_neg (by simp [hknown]), hstep]
        exact ih (htells.set hslot value) hnext
      · have hold : keyword.name ∈ front.map Prod.fst := by simpa [hslot] using htaken
        have hrepeats : Repeats front keyword.name := ⟨keyword.isName_name, hold⟩
        refine .inl ⟨keyword.name, ⟨front, value, rest, rfl, hrepeats, hfront⟩, ?_⟩
        simp [assign, hkey, hslot]

/-! ### Each keyword once -/

/-- The pairs that give a keyword. -/
def givenTo (keyword : Keyword) (given : List (String × String)) : List (String × String) :=
  given.filter fun pair => pair.1 = keyword.name

/-- The keywords that no pair gives, in the order of the grammar. -/
def lacking (given : List (String × String)) : List Keyword :=
  Keyword.all.filter fun keyword => keyword.name ∉ given.map Prod.fst

/-- Where no keyword is repeated, the first value of a keyword is its only one. -/
theorem givenTo_of_lookup {given : List (String × String)} (h : NoRepeat given)
    {keyword : Keyword} {value : String} (hlookup : given.lookup keyword.name = some value) :
    givenTo keyword given = [(keyword.name, value)] := by
  obtain ⟨front, rest, rfl, hfront⟩ := List.lookup_eq_some_iff.1 hlookup
  have hfresh : ∀ pair ∈ front, pair.1 ≠ keyword.name := by
    intro pair hpair heq
    have := hfront pair hpair
    simp [heq] at this
  have hbehind : ∀ pair ∈ rest, pair.1 ≠ keyword.name := by
    intro pair hpair heq
    obtain ⟨before, after, rfl⟩ := List.append_of_mem hpair
    refine h (front ++ (keyword.name, value) :: before) pair after (by simp) ?_
    rw [heq]
    exact ⟨keyword.isName_name, by simp⟩
  unfold givenTo
  rw [List.filter_append, List.filter_cons_of_pos (by simp),
    List.filter_eq_nil_iff.2 (by simpa using hfresh),
    List.filter_eq_nil_iff.2 (by simpa using hbehind), List.nil_append]

/-- Where every keyword has a single pair, none is repeated, and the pair gives its value. -/
theorem of_givenTo {given : List (String × String)} {value : Keyword → String}
    (h : ∀ keyword, givenTo keyword given = [(keyword.name, value keyword)]) :
    NoRepeat given ∧ ∀ keyword : Keyword, given.lookup keyword.name = some (value keyword) := by
  constructor
  · rintro front pair rest rfl ⟨hname, hmem⟩
    obtain ⟨keyword, -, hkeyword⟩ := List.mem_map.1 hname
    obtain ⟨earlier, hearlier, heq⟩ := List.mem_map.1 hmem
    have hlength : (givenTo keyword front ++ givenTo keyword (pair :: rest)).length = 1 := by
      rw [givenTo, givenTo, ← List.filter_append, ← givenTo, h keyword]
      rfl
    have hfront : 0 < (givenTo keyword front).length := by
      refine List.length_pos_of_mem (a := earlier) (List.mem_filter.2 ⟨hearlier, ?_⟩)
      simp [heq, hkeyword]
    have hbehind : 0 < (givenTo keyword (pair :: rest)).length := by
      refine List.length_pos_of_mem (a := pair) (List.mem_filter.2 ⟨List.mem_cons_self, ?_⟩)
      simp [hkeyword]
    rw [List.length_append] at hlength
    omega
  · intro keyword
    have hmem : (keyword.name, value keyword) ∈ givenTo keyword given := by simp [h keyword]
    have hgiven : keyword.name ∈ given.map Prod.fst :=
      List.mem_map_of_mem (List.mem_filter.1 hmem).1
    obtain ⟨found, hfound⟩ := Option.isSome_iff_exists.1 (isSome_lookup_iff.2 hgiven)
    obtain ⟨front, rest, heq, -⟩ := List.lookup_eq_some_iff.1 hfound
    have hpair : (keyword.name, found) ∈ givenTo keyword given :=
      List.mem_filter.2 ⟨by simp [heq], by simp⟩
    rw [h keyword, List.mem_singleton] at hpair
    cases hpair
    exact hfound

theorem lacking_eq {slots : Slots} {given : List (String × String)} (h : Tells slots given) :
    lacking given = Keyword.all.filter fun keyword => (slots keyword).isNone := by
  refine List.filter_congr fun keyword _ => ?_
  rw [Bool.eq_iff_iff, h keyword, Option.isNone_iff_eq_none, ← Option.not_isSome_iff_eq_none,
    isSome_lookup_iff, decide_eq_true_iff]

theorem spec_eq_ok_iff {slots : Slots} {spec : Spec} :
    slots.spec = .ok spec ↔ ∀ keyword, slots keyword = some (spec.part keyword) := by
  constructor
  · intro h
    unfold Slots.spec at h
    split at h
    · next htable hfrom hrow hcol hval =>
      cases h
      intro keyword
      cases keyword <;> assumption
    · cases h
  · intro h
    have htable := h .table
    have hfrom := h .from
    have hrow := h .row
    have hcol := h .col
    have hval := h .val
    simp [Slots.spec, htable, hfrom, hrow, hcol, hval, Spec.part]

theorem ne_nil_of_spec_eq_error {slots : Slots} {cause : DirectiveError}
    (h : slots.spec = .error cause) :
    (Keyword.all.filter fun keyword => (slots keyword).isNone) ≠ [] := by
  intro hnil
  have hsome : ∀ keyword, ∃ value, slots keyword = some value := by
    intro keyword
    have hnone := List.filter_eq_nil_iff.1 hnil keyword keyword.mem_all
    rw [Option.isNone_iff_eq_none] at hnone
    exact Option.ne_none_iff_exists'.1 hnone
  obtain ⟨target, htable⟩ := hsome .table
  obtain ⟨source, hfrom⟩ := hsome .from
  obtain ⟨rowKey, hrow⟩ := hsome .row
  obtain ⟨pivot, hcol⟩ := hsome .col
  obtain ⟨value, hval⟩ := hsome .val
  simp [Slots.spec, htable, hfrom, hrow, hcol, hval] at h

/-! ### Reading -/

/-- What comes of pairs, at least one. -/
theorem parse_of_spread {text : String} {given : List (String × String)} (hne : given ≠ [])
    (h : Text.words text = spread given) :
    (∃ key, FirstRepeat given key ∧ parse text = .error (.repeated key)) ∨
      NoRepeat given ∧ ∃ slots, Tells slots given ∧
        parse text = slots.spec.map fun spec => ⟨spec, given.filter isUnknown⟩ := by
  have hpairs : pairs text = .ok given := by
    obtain ⟨pair, rest, rfl⟩ := List.exists_cons_of_ne_nil hne
    rw [pairs, h]
    exact pairUp_spread _
  rw [parse_eq, hpairs]
  rcases assign_cases tells_empty noRepeat_nil given with
    ⟨key, hfirst, hassign⟩ | ⟨hnone, slots, htells, hassign⟩
  · rw [List.nil_append] at hfirst
    exact .inl ⟨key, hfirst, by simp [hassign]⟩
  · rw [List.nil_append] at hnone htells
    exact .inr ⟨hnone, slots, htells, by simp [hassign]⟩

theorem parse_of_no_words {text : String} (h : Text.words text = []) :
    parse text = .error .empty := by
  rw [parse_eq, pairs, h]

theorem parse_of_odd {text last : String} {given : List (String × String)}
    (h : Text.words text = spread given ++ [last])
    (hpairs : pairUp (spread given ++ [last]) = .error (.dangling last)) :
    parse text = .error (.dangling last) := by
  have herror : pairs text = .error (.dangling last) := by
    rw [← hpairs, pairs, h]
    split
    · next hnil => simp at hnil
    · rfl
  rw [parse_eq, herror]

/-- Pairs put aside are those whose key is no keyword. -/
theorem filter_isUnknown (given : List (String × String)) :
    given.filter isUnknown = given.filter fun pair => ¬ Keyword.IsName pair.1 := by
  refine List.filter_congr fun pair _ => ?_
  rw [Bool.eq_iff_iff, isUnknown, Option.isNone_iff_eq_none, Keyword.ofToken?_eq_none_iff,
    decide_eq_true_iff]

/-- What tokens decide: whether they are a directive and which one, or else the fault that they
have. A fault further down counts only where there is none further up. -/
inductive Verdict : List String → Except DirectiveError Directive → Prop
  | empty : Verdict [] (.error .empty)
  | dangling {tokens last} (hodd : tokens.length % 2 = 1) (hlast : tokens.getLast? = some last) :
    Verdict tokens (.error (.dangling last))
  | repeated {given key} (hfirst : FirstRepeat given key) :
    Verdict (spread given) (.error (.repeated key))
  | missing {given} (hne : given ≠ []) (hnone : NoRepeat given) (hlacking : lacking given ≠ []) :
    Verdict (spread given) (.error (.missing (lacking given)))
  | ok {given} {spec : Spec}
    (hgiven : ∀ keyword, givenTo keyword given = [(keyword.name, spec.part keyword)]) :
    Verdict (spread given) (.ok ⟨spec, given.filter fun pair => ¬ Keyword.IsName pair.1⟩)

theorem FirstRepeat.ne_nil {given : List (String × String)} {key : String}
    (h : FirstRepeat given key) : given ≠ [] := by
  obtain ⟨front, value, rest, rfl, -, -⟩ := h
  simp

theorem verdict_parse (text : String) : Verdict (Text.words text) (parse text) := by
  generalize htokens : Text.words text = tokens
  rcases pairUp_cases tokens with ⟨given, rfl⟩ | ⟨given, last, rfl, hpairs⟩
  · by_cases hne : given = []
    · subst hne
      rw [parse_of_no_words htokens]
      exact .empty
    rcases parse_of_spread hne htokens with ⟨key, hfirst, hparse⟩ | ⟨hnone, slots, htells, hparse⟩
    · rw [hparse]
      exact .repeated hfirst
    · rcases hspec : slots.spec with cause | spec
      · have hcause := spec_eq_error hspec
        have hsome := ne_nil_of_spec_eq_error hspec
        rw [← lacking_eq htells] at hcause hsome
        rw [hparse, hspec, hcause]
        exact .missing hne hnone hsome
      · rw [hparse, hspec, filter_isUnknown]
        refine .ok fun keyword => givenTo_of_lookup hnone ?_
        rw [← htells keyword, spec_eq_ok_iff.1 hspec keyword]
  · rw [parse_of_odd htokens hpairs]
    refine .dangling ?_ (by simp)
    rw [List.length_append, length_spread, List.length_singleton]
    omega

theorem parse_eq_of_verdict {text : String} {answer : Except DirectiveError Directive}
    (h : Verdict (Text.words text) answer) : parse text = answer := by
  generalize htokens : Text.words text = tokens at h
  cases h with
  | empty => exact parse_of_no_words htokens
  | dangling hodd hlast =>
    rcases pairUp_cases tokens with ⟨given, rfl⟩ | ⟨given, last', rfl, hpairs⟩
    · rw [length_spread] at hodd
      omega
    · rw [List.getLast?_concat] at hlast
      cases hlast
      exact parse_of_odd htokens hpairs
  | @repeated given key hfirst =>
    rcases parse_of_spread hfirst.ne_nil htokens with ⟨other, hother, hparse⟩ | ⟨hnone, -⟩
    · rw [hparse, hother.unique hfirst]
    · exact absurd hnone hfirst.not_noRepeat
  | @missing given hne hnone hlacking =>
    rcases parse_of_spread hne htokens with ⟨key, hfirst, -⟩ | ⟨-, slots, htells, hparse⟩
    · exact absurd hnone hfirst.not_noRepeat
    rw [lacking_eq htells] at hlacking ⊢
    rcases hspec : slots.spec with cause | spec
    · rw [hparse, hspec, spec_eq_error hspec]
      rfl
    · refine absurd (List.filter_eq_nil_iff.2 fun keyword _ => ?_) hlacking
      simp [spec_eq_ok_iff.1 hspec keyword]
  | @ok given spec hgiven =>
    obtain ⟨hnone, hlookup⟩ := of_givenTo hgiven
    have hne : given ≠ [] := by
      rintro rfl
      cases hlookup .table
    rcases parse_of_spread hne htokens with ⟨key, hfirst, -⟩ | ⟨-, slots, htells, hparse⟩
    · exact absurd hnone hfirst.not_noRepeat
    have hspec : slots.spec = .ok spec :=
      spec_eq_ok_iff.2 fun keyword => by rw [htells keyword, hlookup keyword]
    rw [hparse, hspec, filter_isUnknown]
    rfl

/-- **The language of directives.** A text is read as what its words decide, whatever stands
between them. -/
theorem parse_eq_iff {text : String} {answer : Except DirectiveError Directive} :
    parse text = answer ↔
      ∃ tokens, Text.CutInto (tokens.map String.toList) text.toList ∧ Verdict tokens answer := by
  constructor
  · rintro rfl
    exact ⟨Text.words text, Text.words_eq_iff.1 rfl, verdict_parse text⟩
  · rintro ⟨tokens, hwords, hverdict⟩
    rw [← Text.words_eq_iff.2 hwords] at hverdict
    exact parse_eq_of_verdict hverdict

end Directive

end Crosstab
