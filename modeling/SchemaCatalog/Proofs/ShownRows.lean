import SchemaCatalog.Proofs.OwnRows
/-!
# Rows by what they show

Engines report the same facts in rows of different shapes. What a row shows is said by cells, each
under the name of its column; the columns may stand in any order with others between them, and a
number may come as an integer of any width. A source tells data if it answers with one row for each
of them (`RowSource.Tells`), and what is told is read (`RowSource.Tells.reads`).
-/

namespace SchemaCatalog

/-! ## Cells -/

/-- What stands in one column of a row. -/
inductive Cell where
  | null
  | text (s : String)
  | flag (b : Bool)
  /-- One of these numbers. -/
  | number (ns : List Int)

namespace Cell

/-- Text, or null if there is none. -/
def ofText? : Option String → Cell
  | none => .null
  | some s => .text s

/-- A number, or null if there is none. -/
def ofNumber? : Option Int64 → Cell
  | none => .null
  | some n => .number [n.toInt]

/-- The value is what the cell says. -/
def Holds : Cell → Value → Prop
  | null, v => v = .null
  | text s, v => v = .string s
  | flag b, v => v = .bool b
  | number ns, v => ∃ n ∈ v.toInt64?, n.toInt ∈ ns

instance (cell : Cell) (v : Value) : Decidable (cell.Holds v) :=
  match cell with
  | null => inferInstanceAs (Decidable (v = .null))
  | text s => inferInstanceAs (Decidable (v = .string s))
  | flag b => inferInstanceAs (Decidable (v = .bool b))
  | number ns => inferInstanceAs (Decidable (∃ n ∈ v.toInt64?, n.toInt ∈ ns))

end Cell

/-! ## Numbers that count -/

theorem toUInt64_of_toInt {n : Int64} {i : Nat} (h : n.toInt = i) : n.toUInt64 = UInt64.ofNat i := by
  rw [← Int64.ofInt_toInt n, h]
  exact Int64.toUInt64_ofNat'

theorem toUInt64_pred_of_toInt {n : Int64} {i : Nat} (h : n.toInt = i + 1) :
    (n - 1).toUInt64 = UInt64.ofNat i := by
  have hn : n.toUInt64 = UInt64.ofNat (i + 1) := toUInt64_of_toInt (by exact_mod_cast h)
  rw [Int64.toUInt64_sub, hn, UInt64.ofNat_add]
  exact UInt64.add_sub_cancel _ _

theorem one_le_of_toInt {n : Int64} {i : Nat} (h : n.toInt = i + 1) : ¬ n < 1 := by
  rw [Int64.lt_iff_toInt_lt, h, Int64.toInt_one]
  omega

/-! ## Rows -/

namespace Row

/-- The row has the cells under the names of their columns. -/
def Shows (row : Row) (cells : List (String × Cell)) : Prop :=
  ∀ cell ∈ cells, ∃ v ∈ row.find? cell.1, cell.2.Holds v

instance (row : Row) (cells : List (String × Cell)) : Decidable (row.Shows cells) :=
  inferInstanceAs (Decidable (∀ cell ∈ cells, ∃ v ∈ row.find? cell.1, cell.2.Holds v))

namespace Shows

variable {row : Row} {cells : List (String × Cell)} {column : String} (h : row.Shows cells)
  (query : String)

include h

theorem value {cell : Cell} (hc : (column, cell) ∈ cells) :
    ∃ v, row.value query column = .ok v ∧ cell.Holds v := by
  obtain ⟨v, hv, hholds⟩ := h _ hc
  refine ⟨v, ?_, hholds⟩
  rw [Row.value, Option.mem_def.1 hv]

theorem string {s : String} (hc : (column, .text s) ∈ cells) : row.string query column = .ok s := by
  obtain ⟨v, hv, rfl⟩ := h.value query hc
  rw [Row.string, hv]
  rfl

theorem string? {s? : Option String} (hc : (column, .ofText? s?) ∈ cells) :
    row.string? query column = .ok s? := by
  obtain ⟨v, hv, hholds⟩ := h.value query hc
  cases s? with
  | none =>
    obtain rfl : v = .null := hholds
    rw [Row.string?, hv]
    rfl
  | some s =>
    obtain rfl : v = .string s := hholds
    rw [Row.string?, hv]
    rfl

theorem flag {b : Bool} (hc : (column, .flag b) ∈ cells) : row.flag query column = .ok b := by
  obtain ⟨v, hv, rfl⟩ := h.value query hc
  rw [Row.flag, hv]
  rfl

/-- The number that is read is one of those that the cell admits. -/
theorem int {ns : List Int} (hc : (column, .number ns) ∈ cells) :
    ∃ n, row.int query column = .ok n ∧ n.toInt ∈ ns := by
  obtain ⟨v, hv, n, hn, hmem⟩ := h.value query hc
  refine ⟨n, ?_, hmem⟩
  simp only [Row.int, hv, Option.mem_def.1 hn, bind, Except.bind]

theorem int? {n? : Option Int64} (hc : (column, .ofNumber? n?) ∈ cells) :
    row.int? query column = .ok n? := by
  obtain ⟨v, hv, hholds⟩ := h.value query hc
  cases n? with
  | none =>
    obtain rfl : v = .null := hholds
    rw [Row.int?, hv]
    rfl
  | some m =>
    obtain ⟨n, hn, hmem⟩ := hholds
    have hsame : n = m := Int64.toInt_inj.1 (List.mem_singleton.1 hmem)
    -- a value that is a number is not null, whatever its width
    cases v <;> simp_all [Row.int?, Value.toInt64?, bind, Except.bind]

/-- Of a position counted from one the place counted from zero is read. -/
theorem ordinal {i : Nat} (hc : (column, .number [i + 1]) ∈ cells) :
    row.ordinal query column = .ok (UInt64.ofNat i) := by
  obtain ⟨n, hn, hmem⟩ := h.int query hc
  have hcount : n.toInt = i + 1 := List.mem_singleton.1 hmem
  simp only [Row.ordinal, hn, bind, Except.bind]
  rw [if_neg (one_le_of_toInt hcount), toUInt64_pred_of_toInt hcount]

end Shows

end Row

/-! ## Sources -/

section Sources
variable {σ κ α β : Type}

namespace RowSource

/-- Whenever it is asked, the source answers the statement with one row for each of the data, in
their order. -/
def Lists (source : RowSource σ κ) (statement : Statement) (cells : β → List (String × Cell))
    (data : List β) : Prop :=
  ∀ s, ∃ rows, (source.fetchAll statement s).1 = .ok rows ∧
    List.Forall₂ (fun row b => row.Shows (cells b)) rows data

/-- Whenever it is asked, the source answers the statement with one row for each of the data, in any
order. -/
def Tells (source : RowSource σ κ) (statement : Statement) (cells : β → List (String × Cell))
    (data : List β) : Prop :=
  ∀ s, ∃ rows order, (source.fetchAll statement s).1 = .ok rows ∧ order.Perm data ∧
    List.Forall₂ (fun row b => row.Shows (cells b)) rows order

end RowSource

/-- If each of the rows is read as the value of its datum, the list is read as their list. -/
theorem mapM_of_forall₂ {m : Type → Type} [Monad m] [LawfulMonad m] {γ : Type}
    {r : γ → β → Prop} {entry : γ → m α} {f : β → α} {rows : List γ} {order : List β}
    (h : List.Forall₂ r rows order)
    (hentry : ∀ b ∈ order, ∀ row, r row b → entry row = pure (f b)) :
    rows.mapM entry = pure (order.map f) := by
  induction h with
  | nil => simp
  | @cons row b rows order hfirst _ ih =>
    have hrest := ih fun b' hb' => hentry b' (List.mem_cons_of_mem _ hb')
    rw [List.mapM_cons, hentry b (by simp) row hfirst, hrest]
    simp

namespace RowSource

variable {source : RowSource σ κ} {statement : Statement} {cells : β → List (String × Cell)}
  {data : List β} {entry : Row → Except Error α} (f : β → α)

theorem Lists.reads (h : source.Lists statement cells data)
    (hentry : ∀ b ∈ data, ∀ row : Row, row.Shows (cells b) → entry row = .ok (f b)) (s : σ) :
    ∃ s', InformationSchema.Reads source statement entry s s' (data.map f) := by
  obtain ⟨rows, hrows, hshown⟩ := h s
  exact ⟨_, rows, Prod.ext hrows rfl, mapM_of_forall₂ hshown hentry⟩

theorem Tells.reads (h : source.Tells statement cells data)
    (hentry : ∀ b ∈ data, ∀ row : Row, row.Shows (cells b) → entry row = .ok (f b)) (s : σ) :
    ∃ s' entries, InformationSchema.Reads source statement entry s s' entries ∧
      entries.Perm (data.map f) := by
  obtain ⟨rows, order, hrows, hperm, hshown⟩ := h s
  refine ⟨_, order.map f, ⟨rows, Prod.ext hrows rfl, ?_⟩, hperm.map f⟩
  exact mapM_of_forall₂ hshown fun b hb => hentry b (hperm.mem_iff.1 hb)

end RowSource

end Sources

end SchemaCatalog
