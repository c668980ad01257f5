import Crosstab.Proofs.Interchange
import Crosstab.Proofs.Json.Grammar
import Crosstab.Proofs.Lookup

/-!
# Records depend on their fields alone

What a record is read as depends on its known fields and on nothing else: not on the order of the
members, not on unknown members, and for a field with a default not on whether the default is
written or left out. In order, the values of all fields say the same as an array. The one thing
asked of unknown members is that their names are texts.

    text ──Writes── members ──fields?──▶ look-up of the known names ──build──▶ record
-/

namespace Crosstab

namespace Json

open Crosstab.Json.Tree (fields? named? orElse?)

variable {α β : Type}

/-- A field of a record. -/
structure Field where
  name : String
  /-- What is read as the default, if the field may be left out. -/
  isDefault? : Option (Tree → Prop)

/-- A text writes an object with these members, in order. -/
def WritesObject (text : String) (members : List (Option String × Tree)) : Prop :=
  Writes text.toList (.object members)

/-- A text writes an array of these items. -/
def WritesArray (text : String) (items : List Tree) : Prop := Writes text.toList (.array items)

/-- The members that count: the known ones, and those whose name is no text. -/
def counting (fields : List Field) (members : List (Option String × Tree)) :
    List (Option String × Tree) :=
  members.filter fun member => member.1.all (fields.map Field.name).contains

/-- A value with its name, as a member. -/
def asMember (entry : String × Tree) : Option String × Tree := (some entry.1, entry.2)

/-- The values of all fields in order, as members. -/
def inOrder (fields : List Field) (items : List Tree) : List (Option String × Tree) :=
  ((fields.map Field.name).zip items).map asMember

/-- What is decoded depends on the fields alone. -/
structure DependsOn (fields : List Field) (decode : String → Option α) : Prop where
  /-- Neither the order of members matters, nor what unknown members there are. -/
  rearranged : ∀ {text other members others}, WritesObject text members →
    WritesObject other others → (counting fields members).Perm (counting fields others) →
    decode text = decode other
  /-- A field that may be left out has its default where it is. -/
  defaulted : ∀ field ∈ fields, ∀ isDefault, field.isDefault? = some isDefault →
    ∀ {text other members value}, WritesObject text members →
    some field.name ∉ members.map Prod.fst → isDefault value →
    WritesObject other ((some field.name, value) :: members) → decode text = decode other
  /-- Any other field is needed. -/
  needed : ∀ field ∈ fields, field.isDefault? = none → ∀ {text members},
    WritesObject text members → some field.name ∉ members.map Prod.fst → decode text = none
  /-- Where every field is given once, an array of their values in order says the same. -/
  listed : ∀ {text other members items}, WritesObject text members → WritesArray other items →
    items.length = fields.length → (counting fields members).Perm (inOrder fields items) →
    decode text = decode other
  /-- No field may be given twice. -/
  repeated : ∀ field ∈ fields, ∀ {text members}, WritesObject text members →
    2 ≤ members.countP (·.1 == some field.name) → decode text = none
  /-- Every name has to be a text. -/
  unnamed : ∀ {text members}, WritesObject text members → none ∈ members.map Prod.fst →
    decode text = none

/-! ### Building from a look-up -/

/-- A record is built from what a look-up gives for its fields. -/
structure Builds (fields : List Field) (build : (String → Option Tree) → Option α) : Prop where
  congr : ∀ {f g}, (∀ field ∈ fields, f field.name = g field.name) → build f = build g
  defaulted : ∀ field ∈ fields, ∀ isDefault, field.isDefault? = some isDefault →
    ∀ {f g value}, f field.name = none → g field.name = some value → isDefault value →
    (∀ other ∈ fields, other.name ≠ field.name → f other.name = g other.name) →
    build f = build g
  needed : ∀ field ∈ fields, field.isDefault? = none → ∀ {f}, f field.name = none → build f = none

namespace Builds

theorem done (x : Option α) : Builds [] fun _ => x :=
  ⟨fun _ => rfl, fun _ h => (nomatch h), fun _ h => (nomatch h)⟩

/-- One more field in front: what it is read as goes into what is built behind it. -/
theorem cons {field : Field} {fields : List Field} {read : Option Tree → Option β}
    {rest : β → (String → Option Tree) → Option α} (h : ∀ x, Builds fields (rest x))
    (hname : field.name ∉ fields.map Field.name)
    (hdefault : ∀ isDefault, field.isDefault? = some isDefault →
      ∀ value, isDefault value → read none = read (some value))
    (hneeded : field.isDefault? = none → read none = none) :
    Builds (field :: fields) fun f => (read (f field.name)).bind fun x => rest x f where
  congr {f g} hagree := by
    have hrest (x : β) : rest x f = rest x g :=
      (h x).congr fun other hother => hagree other (List.mem_cons_of_mem _ hother)
    simp only [hagree field List.mem_cons_self, hrest]
  defaulted other hother isDefault hisDefault {f g value} hf hg hvalue hagree := by
    rcases List.mem_cons.1 hother with rfl | hmem
    · -- the fields behind have other names
      have hrest (x : β) : rest x f = rest x g := by
        refine (h x).congr fun behind hbehind => ?_
        refine hagree behind (List.mem_cons_of_mem _ hbehind) fun hsame => hname ?_
        exact hsame ▸ List.mem_map_of_mem (f := Field.name) hbehind
      simp only [hf, hg, hdefault isDefault hisDefault value hvalue, hrest]
    · have hne : field.name ≠ other.name := fun hsame =>
        hname (hsame ▸ List.mem_map_of_mem (f := Field.name) hmem)
      have hrest (x : β) : rest x f = rest x g :=
        (h x).defaulted other hmem isDefault hisDefault hf hg hvalue
          fun behind hbehind => hagree behind (List.mem_cons_of_mem _ hbehind)
      simp only [hagree field List.mem_cons_self hne, hrest]
  needed other hother hnone {f} hf := by
    rcases List.mem_cons.1 hother with rfl | hmem
    · rw [hf, hneeded hnone, Option.bind_none]
    · have hrest (x : β) : rest x f = none := (h x).needed other hmem hnone hf
      simp only [hrest, Option.bind_fun_none]

/-- A field that may be left out, in front. -/
theorem orElse {name : String} {fields : List Field} {default : β} {read : Tree → Option β}
    {rest : β → (String → Option Tree) → Option α} (h : ∀ x, Builds fields (rest x))
    (hname : name ∉ fields.map Field.name) :
    Builds (⟨name, some fun value => read value = some default⟩ :: fields)
      fun f => (orElse? (f name) default read).bind fun x => rest x f :=
  @cons _ _ ⟨name, _⟩ _ (fun given => orElse? given default read) _ h hname
    (fun _ hsame _ hvalue => by cases hsame; exact hvalue.symm) (fun hnone => nomatch hnone)

/-- A field that is needed, in front. -/
theorem given {name : String} {fields : List Field} {read : Tree → Option β}
    {rest : β → (String → Option Tree) → Option α} (h : ∀ x, Builds fields (rest x))
    (hname : name ∉ fields.map Field.name) :
    Builds (⟨name, none⟩ :: fields)
      fun f => (f name).bind fun value => (read value).bind fun x => rest x f := by
  have hcons := @cons _ _ ⟨name, none⟩ _ (fun given => given.bind read) _ h hname
    (fun _ hsame => nomatch hsame) (fun _ => rfl)
  simpa only [Option.bind_assoc] using hcons

end Builds

/-! ### Looking fields up -/

section

variable {fields : List Field} {members others : List (Option String × Tree)}
  {key : Option String} {name : String}

/-- Members that a record can be read from: every name is a text, and no field is given twice. -/
structure Usable (fields : List Field) (members : List (Option String × Tree)) : Prop where
  texts : members.countP (·.1 == none) = 0
  once : ∀ field ∈ fields, members.countP (·.1 == some field.name) < 2

/-- The look-up of names among members. -/
def valueOf (members : List (Option String × Tree)) (name : String) : Option Tree :=
  members.lookup (some name)

theorem countP_asMember (given : List (String × Tree)) (name : String) :
    (given.map asMember).countP (·.1 == some name) = given.countP (·.1 == name) := by
  rw [List.countP_map]
  rfl

theorem valueOf_asMember (given : List (String × Tree)) (name : String) :
    valueOf (given.map asMember) name = given.lookup name := by
  induction given with
  | nil => rfl
  | cons entry given ih =>
    have hsame : (some name == some entry.1) = (name == entry.1) := rfl
    rw [List.map_cons, valueOf, asMember, List.lookup_cons, List.lookup_cons, hsame]
    cases name == entry.1 with
    | true => rfl
    | false => exact ih

theorem named?_of_texts (h : members.countP (·.1 == none) = 0) :
    ∃ given, named? members = some given ∧ members = given.map asMember := by
  induction members with
  | nil => exact ⟨[], rfl, rfl⟩
  | cons member members ih =>
    obtain ⟨_ | name, value⟩ := member
    · simp at h
    · rw [List.countP_cons_of_neg (by simp)] at h
      obtain ⟨given, hnamed, hmembers⟩ := ih h
      exact ⟨(name, value) :: given, by rw [named?, hnamed]; rfl, by rw [hmembers]; rfl⟩

theorem named?_of_unnamed (h : members.countP (·.1 == none) ≠ 0) : named? members = none := by
  induction members with
  | nil => exact absurd rfl h
  | cons member members ih =>
    obtain ⟨_ | name, value⟩ := member
    · rfl
    · rw [List.countP_cons_of_neg (by simp)] at h
      rw [named?, ih h]
      rfl

theorem fields?_of_usable (h : Usable fields members) :
    (Tree.object members).fields? (fields.map Field.name) = some (valueOf members) := by
  obtain ⟨given, hnamed, rfl⟩ := named?_of_texts h.texts
  have honce : ((fields.map Field.name).any fun name =>
      decide (2 ≤ given.countP (·.1 == name))) = false := by
    rw [List.any_eq_false]
    intro name hname
    obtain ⟨field, hfield, rfl⟩ := List.mem_map.1 hname
    have hcount := h.once field hfield
    rw [countP_asMember] at hcount
    simpa using hcount
  have hlookup : valueOf (given.map asMember) = fun name => given.lookup name :=
    funext fun name => valueOf_asMember given name
  rw [fields?, hnamed, hlookup]
  simp only [Option.bind_eq_bind, Option.bind_some, honce, Bool.false_eq_true, if_false]

theorem fields?_of_not_usable (h : ¬ Usable fields members) :
    (Tree.object members).fields? (fields.map Field.name) = none := by
  by_cases htexts : members.countP (·.1 == none) = 0
  · obtain ⟨given, hnamed, rfl⟩ := named?_of_texts htexts
    have htwice : ((fields.map Field.name).any fun name =>
        decide (2 ≤ given.countP (·.1 == name))) = true := by
      by_contra hany
      refine h ⟨htexts, fun field hfield => ?_⟩
      rw [Bool.not_eq_true, List.any_eq_false] at hany
      rw [countP_asMember]
      simpa using hany field.name (List.mem_map_of_mem hfield)
    rw [fields?, hnamed]
    simp only [Option.bind_eq_bind, Option.bind_some, htwice, if_true]
  · rw [fields?, named?_of_unnamed htexts]
    rfl

/-! ### Members that count -/

/-- Whether members have a name that counts is decided by the members that count. -/
theorem filter_counting (hkey : key.all (fields.map Field.name).contains = true) :
    (counting fields members).filter (·.1 == key) = members.filter (·.1 == key) := by
  rw [counting, List.filter_filter]
  refine List.filter_congr fun member _ => ?_
  by_cases hsame : member.1 = key
  · simp [hsame, hkey]
  · simp [hsame]

theorem all_some (h : name ∈ fields.map Field.name) :
    (some name).all (fields.map Field.name).contains = true := by
  simpa using h

theorem filter_perm (h : (counting fields members).Perm (counting fields others))
    (hkey : key.all (fields.map Field.name).contains = true) :
    (members.filter (·.1 == key)).Perm (others.filter (·.1 == key)) := by
  have hmembers := h.filter (·.1 == key)
  rwa [filter_counting hkey, filter_counting hkey] at hmembers

theorem countP_eq (h : (counting fields members).Perm (counting fields others))
    (hkey : key.all (fields.map Field.name).contains = true) :
    members.countP (·.1 == key) = others.countP (·.1 == key) := by
  rw [List.countP_eq_length_filter, List.countP_eq_length_filter, (filter_perm h hkey).length_eq]

theorem Usable.congr (h : (counting fields members).Perm (counting fields others))
    (husable : Usable fields members) : Usable fields others where
  texts := by
    rw [← countP_eq h rfl]
    exact husable.texts
  once field hfield := by
    rw [← countP_eq h (all_some (List.mem_map_of_mem hfield))]
    exact husable.once field hfield

theorem valueOf_congr (h : (counting fields members).Perm (counting fields others))
    (husable : Usable fields members) {field : Field} (hfield : field ∈ fields) :
    valueOf members field.name = valueOf others field.name :=
  lookup_eq_of_perm (husable.once field hfield)
    (filter_perm h (all_some (List.mem_map_of_mem hfield)))

end

/-! ### Records -/

section

variable {fields : List Field} {build : (String → Option Tree) → Option α}
  {ofTree? : Tree → Option α} {members others : List (Option String × Tree)} {items : List Tree}

/-- A record is read by looking its fields up and building it from them. -/
structure ReadsFields (fields : List Field) (build : (String → Option Tree) → Option α)
    (ofTree? : Tree → Option α) : Prop where
  distinct : (fields.map Field.name).Nodup
  builds : Builds fields build
  read_eq : ∀ tree, ofTree? tree = (tree.fields? (fields.map Field.name)).bind build

namespace ReadsFields

theorem of_usable (h : ReadsFields fields build ofTree?) (husable : Usable fields members) :
    ofTree? (.object members) = build (valueOf members) := by
  rw [h.read_eq, fields?_of_usable husable, Option.bind_some]

theorem of_not_usable (h : ReadsFields fields build ofTree?) (husable : ¬ Usable fields members) :
    ofTree? (.object members) = none := by
  rw [h.read_eq, fields?_of_not_usable husable, Option.bind_none]

theorem rearranged (h : ReadsFields fields build ofTree?)
    (hperm : (counting fields members).Perm (counting fields others)) :
    ofTree? (.object members) = ofTree? (.object others) := by
  by_cases husable : Usable fields members
  · rw [h.of_usable husable, h.of_usable (husable.congr hperm)]
    exact h.builds.congr fun field hfield => valueOf_congr hperm husable hfield
  · rw [h.of_not_usable husable, h.of_not_usable fun hother => husable (hother.congr hperm.symm)]

theorem valueOf_eq_none {name : String} (hout : some name ∉ members.map Prod.fst) :
    valueOf members name = none := by
  rw [valueOf, List.lookup_eq_none_iff]
  intro member hmember
  refine bne_iff_ne.2 fun hsame => hout ?_
  exact hsame ▸ List.mem_map_of_mem hmember

theorem usable_cons_iff {field : Field} {value : Tree}
    (hout : some field.name ∉ members.map Prod.fst) :
    Usable fields ((some field.name, value) :: members) ↔ Usable fields members := by
  have hnone : members.countP (·.1 == some field.name) = 0 := by
    rw [List.countP_eq_zero]
    intro member hmember hsame
    exact hout (beq_iff_eq.1 hsame ▸ List.mem_map_of_mem hmember)
  constructor
  · rintro ⟨htexts, honce⟩
    refine ⟨?_, fun other hother => Nat.lt_of_le_of_lt ?_ (honce other hother)⟩
    · rwa [List.countP_cons_of_neg (by simp)] at htexts
    · exact (List.sublist_cons_self _ _).countP_le
  · rintro ⟨htexts, honce⟩
    refine ⟨by rwa [List.countP_cons_of_neg (by simp)], fun other hother => ?_⟩
    by_cases hsame : other.name = field.name
    · rw [hsame, List.countP_cons_of_pos (by simp), hnone]
      decide
    · rw [List.countP_cons_of_neg (by simp [Ne.symm hsame])]
      exact honce other hother

theorem defaulted (h : ReadsFields fields build ofTree?) {field : Field} (hfield : field ∈ fields)
    {isDefault : Tree → Prop} (hdefault : field.isDefault? = some isDefault)
    (hout : some field.name ∉ members.map Prod.fst) {value : Tree} (hvalue : isDefault value) :
    ofTree? (.object members) = ofTree? (.object ((some field.name, value) :: members)) := by
  by_cases husable : Usable fields members
  · rw [h.of_usable husable, h.of_usable ((usable_cons_iff hout).2 husable)]
    refine h.builds.defaulted field hfield isDefault hdefault (valueOf_eq_none hout) ?_ hvalue
      fun other _ hne => ?_
    · rw [valueOf, List.lookup_cons_self]
    · have hkey : (some other.name == some field.name) = false := by simpa using hne
      rw [valueOf, valueOf, List.lookup_cons, hkey]
  · rw [h.of_not_usable husable, h.of_not_usable (mt (usable_cons_iff hout).1 husable)]

theorem needed (h : ReadsFields fields build ofTree?) {field : Field} (hfield : field ∈ fields)
    (hnone : field.isDefault? = none) (hout : some field.name ∉ members.map Prod.fst) :
    ofTree? (.object members) = none := by
  by_cases husable : Usable fields members
  · rw [h.of_usable husable]
    exact h.builds.needed field hfield hnone (valueOf_eq_none hout)
  · exact h.of_not_usable husable

theorem counting_inOrder (fields : List Field) (items : List Tree) :
    counting fields (inOrder fields items) = inOrder fields items := by
  refine List.filter_eq_self.2 fun member hmember => ?_
  obtain ⟨entry, hentry, rfl⟩ := List.mem_map.1 hmember
  exact all_some (List.of_mem_zip hentry).1

theorem usable_inOrder (hdistinct : (fields.map Field.name).Nodup)
    (hlength : items.length = fields.length) : Usable fields (inOrder fields items) where
  texts := by
    rw [inOrder, List.countP_map, List.countP_eq_zero]
    exact fun _ _ hsame => nomatch hsame
  once field _ := by
    have hkeys : ((fields.map Field.name).zip items).map Prod.fst = fields.map Field.name :=
      List.map_fst_zip (by simp [hlength])
    have hcount : ((fields.map Field.name).zip items).countP (·.1 == field.name) =
        (fields.map Field.name).count field.name := by
      conv_rhs => rw [← hkeys, List.count, List.countP_map]
      rfl
    rw [inOrder, countP_asMember, hcount]
    exact Nat.lt_succ_of_le (List.nodup_iff_count.1 hdistinct _)

theorem listed (h : ReadsFields fields build ofTree?) (hlength : items.length = fields.length)
    (hperm : (counting fields members).Perm (inOrder fields items)) :
    ofTree? (.object members) = ofTree? (.array items) := by
  have hlookup : valueOf (inOrder fields items) =
      fun name => ((fields.map Field.name).zip items).lookup name :=
    funext fun name => valueOf_asMember _ name
  have harray : ofTree? (.array items) = build (valueOf (inOrder fields items)) := by
    rw [h.read_eq, fields?, if_pos (by simp [hlength]), Option.bind_some, hlookup]
  rw [← counting_inOrder] at hperm
  rw [h.rearranged hperm, h.of_usable (usable_inOrder h.distinct hlength), harray]

theorem dependsOn (h : ReadsFields fields build ofTree?) :
    DependsOn fields (decode? ofTree?) where
  rearranged hwrites hwrites' hperm := by
    rw [decode?, decode?, hwrites.parse?_eq, hwrites'.parse?_eq]
    exact h.rearranged hperm
  defaulted field hfield isDefault hdefault {text other members value} hwrites hout hvalue
      hwrites' := by
    rw [decode?, decode?, hwrites.parse?_eq, hwrites'.parse?_eq]
    exact h.defaulted hfield hdefault hout hvalue
  needed field hfield hnone {text members} hwrites hout := by
    rw [decode?, hwrites.parse?_eq]
    exact h.needed hfield hnone hout
  listed hwrites hwrites' hlength hperm := by
    rw [decode?, decode?, hwrites.parse?_eq, hwrites'.parse?_eq]
    exact h.listed hlength hperm
  repeated field hfield {text members} hwrites htwice := by
    rw [decode?, hwrites.parse?_eq]
    exact h.of_not_usable fun husable => Nat.not_le_of_lt (husable.once field hfield) htwice
  unnamed {text members} hwrites hnone := by
    rw [decode?, hwrites.parse?_eq]
    refine h.of_not_usable fun husable => ?_
    obtain ⟨member, hmember, hname⟩ := List.mem_map.1 hnone
    exact List.countP_eq_zero.1 husable.texts member hmember (beq_iff_eq.2 hname)

end ReadsFields

end

end Json

open Json (Tree Field Builds ReadsFields DependsOn decode? WritesObject)

/-! ### The models -/

/-- Options have a default for every field. -/
def Options.fields : List Field :=
  [⟨"dialect", some fun value => Sql.Dialect.ofTree? value = some .sqlite⟩,
    ⟨"columnNaming", some fun value => Sql.ColumnNaming.ofTree? value = some .quoted⟩,
    ⟨"dryRun", some fun value => value.flag? = some false⟩]

theorem Options.dependsOn : DependsOn Options.fields (decode? Options.ofTree?) :=
  ReadsFields.dependsOn
    ⟨by decide,
      .orElse (fun _ => .orElse (fun _ => .orElse (fun _ => .done _) (by decide)) (by decide))
        (by decide),
      fun _ => rfl⟩

/-- Every field of a spec is needed. -/
def Spec.fields : List Field := Spec.fieldNames.map fun name => ⟨name, none⟩

theorem Spec.dependsOn : DependsOn Spec.fields (decode? Spec.ofTree?) :=
  ReadsFields.dependsOn
    ⟨by decide,
      .given (fun _ => .given (fun _ => .given (fun _ => .given (fun _ => .given (fun _ => .done _)
        (by decide)) (by decide)) (by decide)) (by decide)) (by decide),
      fun _ => rfl⟩

/-- An entry has a default for its indentation alone. -/
def Log.Entry.fields : List Field :=
  [⟨"level", none⟩, ⟨"message", none⟩, ⟨"indent", some fun value => value.byte? = some 0⟩]

theorem Log.Entry.dependsOn : DependsOn Log.Entry.fields (decode? Log.Entry.ofTree?) :=
  ReadsFields.dependsOn
    ⟨by decide,
      .given (fun _ => .given (fun _ => .orElse (fun _ => .done _) (by decide)) (by decide))
        (by decide),
      fun _ => rfl⟩

/-- **Fields.** Options, specs and log entries are decoded by their fields alone: in any order of
the members, whatever unknown members with texts as names are among them, with defaults written or
left out, and from an array of all values in order. -/
theorem models_dependOnFields :
    DependsOn Options.fields (decode? Options.ofTree?) ∧
      DependsOn Spec.fields (decode? Spec.ofTree?) ∧
      DependsOn Log.Entry.fields (decode? Log.Entry.ofTree?) :=
  ⟨Options.dependsOn, Spec.dependsOn, Log.Entry.dependsOn⟩

/-- An unknown member does matter if its name is no text, such as half of a surrogate pair: without
it the object says the default options, with it nothing at all. -/
theorem unpairedName_refused :
    WritesObject "\x7b\x7d" [] ∧ decode? Options.ofTree? "\x7b\x7d" = some Options.default ∧
      WritesObject "\x7b\"\\ud800\":0\x7d" [(none, .numeral ⟨false, 0, 0, true⟩)] ∧
      decode? Options.ofTree? "\x7b\"\\ud800\":0\x7d" = none := by
  have hgap : Json.IsGap [] := fun _ h => nomatch h
  have hempty : WritesObject "\x7b\x7d" [] := .emptyObject hgap
  have hname : Json.WritesString ['"', '\\', 'u', 'd', '8', '0', '0', '"'] none :=
    .intro (.code (n := 0xD800) (by decide) .nil)
  have hzero : Json.Writes ['0'] (.numeral ⟨false, 0, 0, true⟩) :=
    .numeral (.intro .none .zero .none .none)
  have hunpaired : WritesObject "\x7b\"\\ud800\":0\x7d" [(none, .numeral ⟨false, 0, 0, true⟩)] :=
    .object (.last (.intro hgap hname hgap hzero))
  refine ⟨hempty, ?_, hunpaired, Options.dependsOn.unnamed hunpaired List.mem_cons_self⟩
  rw [decode?, hempty.parse?_eq]
  rfl

end Crosstab
