import Crosstab.Interchange
import Crosstab.Proofs.Json.Printing

/-!
# Models read back from JSON

What is written of a spec, of options, of a log entry, of a dialect or of a naming policy is read
as what was written, in the compact form and in the pretty one.

    model ──toJson──▶ value ──Denotes── tree ──ofTree?──▶ model
-/

namespace Crosstab

open Json (Tree Denotes DenoteFields)

namespace Json

variable {α : Type} {toJson : α → Json} {ofTree? : Tree → Option α} {x : α}

/-- The model that a text says. -/
def decode? (ofTree? : Tree → Option α) (text : String) : Option α :=
  (Tree.parse? text).bind ofTree?

/-- Both written forms of a model are read as the model. -/
def ReadsBack (toJson : α → Json) (ofTree? : Tree → Option α) (x : α) : Prop :=
  decode? ofTree? (toJson x).compact = some x ∧ decode? ofTree? (toJson x).pretty = some x

theorem Denotes.readsBack {tree : Tree} (h : (toJson x).Denotes tree)
    (hread : ofTree? tree = some x) : ReadsBack toJson ofTree? x := by
  obtain ⟨hcompact, hpretty⟩ := h.parse?
  unfold ReadsBack decode?
  rw [hcompact, hpretty]
  exact ⟨hread, hread⟩

/-- Writing loses nothing: neither of a model, nor of what any text says. -/
structure Lossless (toJson : α → Json) (ofTree? : Tree → Option α) : Prop where
  written : ∀ x, ReadsBack toJson ofTree? x
  rewritten : ∀ text x, decode? ofTree? text = some x → ReadsBack toJson ofTree? x

theorem lossless_of_readsBack (h : ∀ x, ReadsBack toJson ofTree? x) : Lossless toJson ofTree? :=
  ⟨h, fun _ x _ => h x⟩

end Json

open Json (ReadsBack Lossless lossless_of_readsBack)

/-! ### Named alternatives -/

theorem Sql.Dialect.readsBack (dialect : Sql.Dialect) :
    ReadsBack (fun dialect => .string dialect.name) ofTree? dialect :=
  Denotes.readsBack (.string _) (by cases dialect <;> decide)

theorem Sql.ColumnNaming.readsBack (naming : Sql.ColumnNaming) :
    ReadsBack (fun naming => .string naming.name) ofTree? naming :=
  Denotes.readsBack (.string _) (by cases naming <;> decide)

/-! ### Records -/

theorem Spec.readsBack (spec : Spec) : ReadsBack toJson ofTree? spec :=
  Denotes.readsBack
    (.object (.cons _ (.string _) (.cons _ (.string _) (.cons _ (.string _)
      (.cons _ (.string _) (.cons _ (.string _) .nil))))))
    rfl

theorem Options.readsBack (options : Options) : ReadsBack toJson ofTree? options := by
  obtain ⟨dialect, naming, dryRun⟩ := options
  refine Denotes.readsBack
    (.object (.cons _ (.string _) (.cons _ (.string _) (.cons _ (.bool _) .nil)))) ?_
  cases dialect <;> cases naming <;> rfl

namespace Log.Entry

/-- A byte is read from its digits. -/
theorem byte?_numeralOf (byte : UInt8) :
    (Tree.numeral (Json.numeralOf byte.toNat)).byte? = some byte := by
  have hbyte : byte.toNat < 256 := byte.toNat_lt
  simp [Tree.byte?, Json.numeralOf, hbyte]

theorem readsBack (entry : Entry) : ReadsBack toJson ofTree? entry := by
  obtain ⟨level, message, indent⟩ := entry
  have hbyte : (indent.toNat : Int) < 256 := by exact_mod_cast indent.toNat_lt
  have hindent := Json.denotes_ofInt (n := indent.toNat) ⟨by omega, by omega⟩
  refine Denotes.readsBack
    (.object (.cons _ (.string _) (.cons _ (.string _) (.cons _ hindent .nil)))) ?_
  have hfields : ofTree? (.object
      [(some "level", .string (some level.name)), (some "message", .string (some message)),
        (some "indent", .numeral (Json.numeralOf indent.toNat))]) =
      (Tree.numeral (Json.numeralOf indent.toNat)).byte?.bind
        fun byte => some ⟨level, message, byte⟩ := by
    cases level <;> rfl
  rw [hfields, byte?_numeralOf, Option.bind_some]

end Log.Entry

/-! ### All of them -/

/-- Specs, options, log entries, dialects and naming policies read back from their JSON. -/
theorem models_lossless :
    Lossless Spec.toJson Spec.ofTree? ∧
    Lossless Options.toJson Options.ofTree? ∧
    Lossless Log.Entry.toJson Log.Entry.ofTree? ∧
    Lossless (fun dialect : Sql.Dialect => .string dialect.name) Sql.Dialect.ofTree? ∧
    Lossless (fun naming : Sql.ColumnNaming => .string naming.name) Sql.ColumnNaming.ofTree? :=
  ⟨lossless_of_readsBack Spec.readsBack, lossless_of_readsBack Options.readsBack,
    lossless_of_readsBack Log.Entry.readsBack, lossless_of_readsBack Sql.Dialect.readsBack,
    lossless_of_readsBack Sql.ColumnNaming.readsBack⟩

end Crosstab
