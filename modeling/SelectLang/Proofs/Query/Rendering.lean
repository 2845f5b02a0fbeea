import Mathlib.Data.List.Basic
import SelectLang.Proofs.Json.Layout
import SelectLang.Proofs.Json.Reader
import SelectLang.Query.Render
import SelectLang.Token.Json

namespace SelectLang

open Json (Datum IsText IsVisible read?)

-- What the JSON of a query or of a token is to tell.
def Condition.datum (c : Condition) : Datum := .object [
  ("path",  .string c.path),
  ("op",    .string c.comparison.symbol),
  ("value", .string c.value)
]

def SortKey.datum (k : SortKey) : Datum := .object [
  ("path",      .string k.path),
  ("direction", .string k.direction.name)
]

def Query.datum (q : Query) : Datum := .object [
  ("selects", .array (q.fields.map .string)),
  ("coll",    .string q.collection),
  ("wheres",  .array (q.conditions.map Condition.datum)),
  ("orders",  .array (q.sortKeys.map SortKey.datum)),
  ("limit",   q.limit.elim .null fun n => .number n.toNat)
]

def Position.datum (p : Position) : Datum := .object [
  ("offset", .number p.offset),
  ("line",   .number p.line),
  ("column", .number p.column)
]

def Token.datum (t : Token) : Datum := .object [
  ("kind",     .string t.kind.name),
  ("text",     .string t.text),
  ("position", t.position.datum)
]

-- The text is JSON of this value and of no other one, and the value is what a reader finds.
def Conveys (text : String) (d : Datum) : Prop :=
  read? text = some d ∧ ∀ d', IsText text d' ↔ d' = d

section

variable {α : Type} {text text' : String} {d d' : Datum} {f : α → Json} {g : α → Datum}

theorem conveys_of_isText (h : IsText text d) : Conveys text d := by
  have hd := Json.read?_eq_some_iff.mpr h
  refine ⟨hd, fun d' => ?_⟩
  rw [← Json.read?_eq_some_iff, hd, Option.some.injEq, eq_comm]

theorem Conveys.eq (h : Conveys text d) (h' : Conveys text' d') (ht : text = text') : d = d' := by
  subst ht
  exact Option.some.inj (h.1.symm.trans h'.1)

theorem Json.conveys_compact (j : Json) : Conveys j.compact j.datum :=
  conveys_of_isText (writes_compact j).isText

theorem Json.conveys_pretty (j : Json) : Conveys j.pretty j.datum :=
  conveys_of_isText (writes_prettyAt 0 j).isText

theorem Json.datumItems_map (h : ∀ a, (f a).datum = g a) (as : List α) :
    datumItems (as.map f) = as.map g := by
  induction as with
  | nil          => rfl
  | cons a as ih => simp [datumItems, h, ih]

end

theorem Condition.json_datum (c : Condition) : c.json.datum = c.datum := rfl

theorem SortKey.json_datum (k : SortKey) : k.json.datum = k.datum := rfl

theorem Token.json_datum (t : Token) : t.json.datum = t.datum := rfl

theorem Query.json_datum (q : Query) : q.json.datum = q.datum := by
  have hf := Json.datumItems_map (f := .string) (g := .string) (fun _ => rfl) q.fields
  have hc := Json.datumItems_map Condition.json_datum q.conditions
  have hk := Json.datumItems_map SortKey.json_datum q.sortKeys
  cases hl : q.limit <;> simp [json, datum, Json.datum, Json.datumMembers, hf, hc, hk, hl]

theorem Query.conveys (q : Query) :
    Conveys (q.render .json) q.datum ∧ Conveys (q.render .pretty) q.datum :=
  ⟨q.json_datum ▸ q.json.conveys_compact, q.json_datum ▸ q.json.conveys_pretty⟩

theorem Token.conveys (ts : List Token) :
    Conveys (Json.array (ts.map Token.json)).compact (.array (ts.map Token.datum)) := by
  have h := Json.datumItems_map Token.json_datum ts
  have hc := (Json.array (ts.map Token.json)).conveys_compact
  rwa [Json.datum, h] at hc

theorem Comparison.symbol_injective : Function.Injective symbol := by
  intro c c'
  cases c <;> cases c' <;> decide

theorem Direction.name_injective : Function.Injective name := by
  intro d d'
  cases d <;> cases d' <;> decide

theorem Token.Kind.name_injective : Function.Injective name := by
  intro k k'
  cases k <;> cases k' <;> decide

theorem Condition.datum_injective : Function.Injective datum := by
  rintro ⟨p, o, v⟩ ⟨p', o', v'⟩ h
  simpa [datum, Comparison.symbol_injective.eq_iff] using h

theorem SortKey.datum_injective : Function.Injective datum := by
  rintro ⟨p, d⟩ ⟨p', d'⟩ h
  simpa [datum, Direction.name_injective.eq_iff] using h

theorem Query.datum_injective : Function.Injective datum := by
  rintro ⟨fs, c, cs, ks, l⟩ ⟨fs', c', cs', ks', l'⟩ h
  have hs : Function.Injective Datum.string := fun _ _ => Datum.string.inj
  simp only [datum, Datum.object.injEq, List.cons.injEq, Prod.mk.injEq, Datum.array.injEq,
    Datum.string.injEq, hs.list_map.eq_iff, Condition.datum_injective.list_map.eq_iff,
    SortKey.datum_injective.list_map.eq_iff, true_and, and_true] at h
  obtain ⟨rfl, rfl, rfl, rfl, hl⟩ := h
  have hl : l = l' := by
    cases l <;> cases l' <;> simp_all [UInt64.toNat_inj]
  rw [hl]

theorem Token.datum_injective : Function.Injective datum := by
  rintro ⟨k, s, p⟩ ⟨k', s', p'⟩ h
  simpa [datum, Position.datum, Token.Kind.name_injective.eq_iff, Position.ext_iff] using h

-- All that a query or a list of tokens says is in its JSON, in either layout of the query.
theorem Query.rendering_lossless :
    (∀ q : Query, Conveys (q.render .json) q.datum ∧ Conveys (q.render .pretty) q.datum ∧
      IsVisible (q.render .json)) ∧
    (∀ q q' : Query, q.render .json = q'.render .json ∨ q.render .pretty = q'.render .pretty →
      q = q') ∧
    (∀ ts : List Token,
      Conveys (Json.array (ts.map Token.json)).compact (.array (ts.map Token.datum)) ∧
      IsVisible (Json.array (ts.map Token.json)).compact) ∧
    (∀ ts ts' : List Token,
      (Json.array (ts.map Token.json)).compact = (Json.array (ts'.map Token.json)).compact →
        ts = ts') := by
  refine ⟨fun q => ?_, fun q q' h => ?_, fun ts => ?_, fun ts ts' h => ?_⟩
  case refine_1 => exact ⟨q.conveys.1, q.conveys.2, q.json.isVisible_compact⟩
  case refine_2 =>
    refine datum_injective ?_
    obtain h | h := h
    · exact q.conveys.1.eq q'.conveys.1 h
    · exact q.conveys.2.eq q'.conveys.2 h
  case refine_3 => exact ⟨Token.conveys ts, Json.isVisible_compact _⟩
  case refine_4 =>
    have hd := (Token.conveys ts).eq (Token.conveys ts') h
    exact Token.datum_injective.list_map (Datum.array.inj hd)

end SelectLang
