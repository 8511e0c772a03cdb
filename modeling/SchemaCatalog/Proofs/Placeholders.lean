import Mathlib
import SchemaCatalog.Proofs.OwnRows
import SchemaCatalog.Sqlite.Binding
/-!
# Placeholders and what they stand for

The parameters of a statement are numbered in three places: in the list of tokens that stands in its
text, in a token of itself, and in the names under which values are bound. A token is a sign and a
number, so it tells its parameter (`Engine.parameter?_token`), and a list of tokens can be taken apart
again, because no token has a comma in it. Hence every token in the schema filter of a table listing
stands for the schema at its own place (`Engine.placeholders_in_step`).
-/

namespace SchemaCatalog

/-! ## Lists in a text -/

namespace Text

/-- The parts of a text between the places where a comma and a space stand. -/
def commaParts : List Char → List (List Char)
  | ',' :: ' ' :: rest => [] :: commaParts rest
  | c :: rest => (commaParts rest).modifyHead (c :: ·)
  | [] => [[]]

/-- The items of a list that is written with a comma and a space behind each but the last. There are
none in an empty text. -/
def items (text : String) : List String :=
  if text = "" then [] else (commaParts text.toList).map String.ofList

theorem commaParts_of_comma_free {cs : List Char} (h : ',' ∉ cs) : commaParts cs = [cs] := by
  induction cs with
  | nil => rfl
  | cons c rest ih =>
    obtain ⟨hc, hrest⟩ := List.ne_and_not_mem_of_not_mem_cons h
    rw [commaParts, ih hrest, List.modifyHead_cons]
    rintro _ rfl
    exact absurd rfl hc

theorem commaParts_append {cs rest : List Char} (h : ',' ∉ cs) :
    commaParts (cs ++ ',' :: ' ' :: rest) = cs :: commaParts rest := by
  induction cs with
  | nil => rfl
  | cons c cs ih =>
    obtain ⟨hc, hcs⟩ := List.ne_and_not_mem_of_not_mem_cons h
    rw [List.cons_append, commaParts, ih hcs, List.modifyHead_cons]
    rintro _ rfl
    exact absurd rfl hc

theorem commaParts_intercalate {parts : List (List Char)} (hne : parts ≠ [])
    (h : ∀ part ∈ parts, ',' ∉ part) : commaParts ([',', ' '].intercalate parts) = parts := by
  induction parts with
  | nil => exact absurd rfl hne
  | cons part rest ih =>
    obtain ⟨hpart, hrest⟩ := List.forall_mem_cons.1 h
    cases rest with
    | nil => simpa using commaParts_of_comma_free hpart
    | cons second rest =>
      rw [List.intercalate_cons_cons, List.append_assoc, List.cons_append, List.cons_append,
        List.nil_append, commaParts_append hpart, ih (List.cons_ne_nil _ _) hrest]

/-- What is written as a list is read as the same items, if none of them is empty or has a comma. -/
theorem items_intercalate {texts : List String} (h : ∀ t ∈ texts, t ≠ "" ∧ ',' ∉ t.toList) :
    items (", ".intercalate texts) = texts := by
  cases texts with
  | nil => rfl
  | cons text rest =>
    have hlist : (", ".intercalate (text :: rest)).toList =
        [',', ' '].intercalate ((text :: rest).map String.toList) :=
      String.toList_intercalate
    have hne : ", ".intercalate (text :: rest) ≠ "" := by
      have htext := (h text List.mem_cons_self).1
      cases rest with
      | nil => simpa using htext
      | cons second rest => simp
    rw [items, if_neg hne, hlist, commaParts_intercalate (by simp), List.map_map]
    · simp [Function.comp_def]
    · intro part hpart
      obtain ⟨t, ht, rfl⟩ := List.mem_map.1 hpart
      exact (h t ht).2

end Text

/-! ## Tokens and numbers -/

namespace Engine

/-- What stands in front of the number in a token. -/
def sign : Engine → String
  | postgres => "$"
  | sqlServer => "@P"
  | sqlite => ":p"

/-- The number of the first parameter. -/
def firstNumber : Engine → Nat
  | postgres => 1
  | sqlServer => 1
  | sqlite => 0

/-- The place, from zero on, of the parameter to which a token refers. -/
def parameter? (e : Engine) (token : String) : Option Nat := do
  let digits ← token.toList.dropPrefix? e.sign.toList
  let number ← (String.ofList digits).toNat?
  if e.firstNumber ≤ number then some (number - e.firstNumber) else none

variable {e : Engine} {i j : Nat}

/-- A token is the sign and a number, as long as numbers have sixty-four bits. -/
theorem token_eq (e : Engine) (h : i < 2 ^ 64 - 1) :
    e.naming.token (.ofNat i) = e.sign ++ (i + e.firstNumber).repr := by
  have hnat : (UInt64.ofNat i).toNat = i := UInt64.toNat_ofNat_of_lt' (Nat.lt_of_lt_pred h)
  have hnext : (UInt64.ofNat i + 1).toNat = i + 1 := by
    rw [UInt64.toNat_add, hnat]
    exact Nat.mod_eq_of_lt (Nat.add_lt_of_lt_sub h)
  cases e with
  | postgres => exact congrArg (fun n => "$" ++ n.repr) hnext
  | sqlServer => exact congrArg (fun n => "@P" ++ n.repr) hnext
  | sqlite => exact congrArg (fun n => ":p" ++ n.repr) hnat

/-- A token refers to the parameter for which it was made. -/
theorem parameter?_token (e : Engine) (h : i < 2 ^ 64 - 1) :
    e.parameter? (e.naming.token (.ofNat i)) = some i := by
  have hdigits : (e.sign ++ (i + e.firstNumber).repr).toList.dropPrefix? e.sign.toList =
      some (i + e.firstNumber).repr.toList := by
    rw [String.toList_append]
    exact List.dropPrefix?_append_of_beq _ (BEq.refl _)
  have hnumber : (String.ofList (i + e.firstNumber).repr.toList).toNat? = some (i + e.firstNumber) := by
    rw [String.ofList_toList, Nat.toNat?_repr]
  rw [parameter?, token_eq e h, hdigits, Option.bind_eq_bind, Option.bind_some, hnumber,
    Option.bind_eq_bind, Option.bind_some, if_pos (Nat.le_add_left _ _), Nat.add_sub_cancel]

theorem eq_of_token_eq (hi : i < 2 ^ 64 - 1) (hj : j < 2 ^ 64 - 1)
    (h : e.naming.token (.ofNat i) = e.naming.token (.ofNat j)) : i = j := by
  have hplaces : some i = some j := by
    rw [← parameter?_token e hi, h, parameter?_token e hj]
  exact Option.some.inj hplaces

theorem token_ne_empty (h : i < 2 ^ 64 - 1) : e.naming.token (.ofNat i) ≠ "" := by
  rw [token_eq e h]
  cases e <;> simp [sign]

theorem comma_not_mem_token (h : i < 2 ^ 64 - 1) : ',' ∉ (e.naming.token (.ofNat i)).toList := by
  rw [token_eq e h, String.toList_append, List.mem_append, Nat.repr_eq_ofList_toDigits,
    String.toList_ofList]
  rintro (hsign | hdigit)
  · revert hsign
    cases e <;> decide
  · have hisDigit := Nat.isDigit_of_mem_toDigits (by decide) (by decide) hdigit
    revert hisDigit
    decide

/-! ## Lists of tokens -/

/-- The tokens of the parameters from `start` on, `count` of them. -/
def tokens (e : Engine) (start count : Nat) : List String :=
  (List.range count).map fun i => e.naming.token (.ofNat (start + i))

end Engine

theorem Naming.indices_ofNat {start count : Nat} (h : start + count < 2 ^ 64) :
    indices (.ofNat start) (.ofNat count) =
      (List.range count).map fun i => UInt64.ofNat (start + i) := by
  have hstart : (UInt64.ofNat start).toNat = start :=
    UInt64.toNat_ofNat_of_lt' (Nat.lt_of_le_of_lt (Nat.le_add_right _ _) h)
  have hcount : (UInt64.ofNat count).toNat = count :=
    UInt64.toNat_ofNat_of_lt' (Nat.lt_of_le_of_lt (Nat.le_add_left _ _) h)
  have hfits : ¬ UInt64.ofNat start + UInt64.ofNat count < UInt64.ofNat start := by
    rw [← UInt64.ofNat_add, UInt64.lt_iff_toNat_lt, UInt64.toNat_ofNat_of_lt' h, hstart]
    exact Nat.not_lt.2 (Nat.le_add_right _ _)
  rw [indices, if_neg hfits, hcount]
  exact List.map_congr_left fun i _ => (UInt64.ofNat_add start i).symm

namespace Engine

variable {e : Engine} {start count : Nat}

theorem lt_of_mem_tokens {token : String} (h : start + count < 2 ^ 64)
    (htoken : token ∈ e.tokens start count) :
    ∃ i < 2 ^ 64 - 1, token = e.naming.token (.ofNat i) := by
  obtain ⟨i, hi, rfl⟩ := List.mem_map.1 htoken
  have hi := List.mem_range.1 hi
  exact ⟨start + i, by omega, rfl⟩

/-- The list that is written can be read as its tokens. -/
theorem items_placeholders (e : Engine) (h : start + count < 2 ^ 64) :
    Text.items (e.naming.placeholders (.ofNat start) (.ofNat count)) = e.tokens start count := by
  have hwritten : e.naming.placeholders (.ofNat start) (.ofNat count) =
      ", ".intercalate (e.tokens start count) := by
    rw [Naming.placeholders, Naming.indices_ofNat h, List.map_map]
    rfl
  rw [hwritten]
  refine Text.items_intercalate fun token htoken => ?_
  obtain ⟨i, hi, rfl⟩ := lt_of_mem_tokens h htoken
  exact ⟨token_ne_empty hi, comma_not_mem_token hi⟩

theorem nodup_tokens (e : Engine) (h : start + count < 2 ^ 64) : (e.tokens start count).Nodup := by
  refine List.Nodup.map_on (fun i hi j hj hsame => ?_) List.nodup_range
  have hi := List.mem_range.1 hi
  have hj := List.mem_range.1 hj
  have := eq_of_token_eq (by omega) (by omega) hsame
  omega

theorem getElem?_tokens {i : Nat} (e : Engine) (h : i < count) :
    (e.tokens start count)[i]? = some (e.naming.token (.ofNat (start + i))) := by
  simp [tokens, h]

end Engine

/-! ## Values under their names -/

/-- A value is bound under the token of its place. -/
theorem Sqlite.getElem?_bound (values : List Value) (i : Nat) :
    (bound values)[i]? =
      values[i]?.map fun v => (Engine.sqlite.naming.token (.ofNat i), Stored.ofValue v) := by
  have hname (n : UInt64) : ":" ++ Naming.sqlite.parameterName n = Naming.sqlite.token n := by
    show ":" ++ ("p" ++ n.toNat.repr) = ":p" ++ n.toNat.repr
    rw [← String.append_assoc]
    rfl
  simp only [bound, List.getElem?_map, List.getElem?_zipIdx, Option.map_map, Nat.zero_add, hname]
  rfl

/-! ## The filter of a table listing -/

theorem sqlText_append {lines more : List String} (h : lines ≠ []) (hmore : more ≠ []) :
    sqlText (lines ++ more) = sqlText lines ++ "\n" ++ sqlText more :=
  String.intercalate_append_of_ne_nil h hmore

/-- Schemas that are given add one line to a listing, which wants the schema of a table to be in a list
of placeholders. -/
structure FiltersBy (column : String) (listing : Naming → List String → String)
    (before after : String) : Prop where
  unfiltered (naming : Naming) : listing naming [] = before ++ after
  filtered (naming : Naming) {schemas : List String} : schemas ≠ [] →
    listing naming schemas = before ++ "  AND " ++ column ++ " IN (" ++
      naming.placeholders 0 (.ofNat schemas.length) ++ ")" ++ "\n" ++ after

/-- The line stands before the last one. -/
theorem filtersBy_of_lines {listing : Naming → List String → String} {lines : List String}
    {column last : String} (h : ∀ naming schemas, listing naming schemas =
      sqlText (lines ++ InformationSchema.Dialect.schemaFilter column naming schemas ++ [last]))
    (hne : lines ≠ []) : FiltersBy column listing (sqlText lines ++ "\n") last where
  unfiltered naming := by
    have hnone : InformationSchema.Dialect.schemaFilter column naming [] = [] := rfl
    rw [h, hnone, List.append_nil, sqlText_append hne (List.cons_ne_nil _ _), sqlText, sqlText,
      String.intercalate_singleton]
  filtered naming schemas hschemas := by
    have hfilter : InformationSchema.Dialect.schemaFilter column naming schemas =
        ["  AND " ++ column ++ " IN (" ++ naming.placeholders 0 (.ofNat schemas.length) ++ ")"] := by
      rw [InformationSchema.Dialect.schemaFilter, if_neg (by simpa using hschemas)]
      rfl
    rw [h, hfilter, List.append_assoc, List.singleton_append,
      sqlText_append hne (List.cons_ne_nil _ _)]
    simp only [sqlText, String.intercalate_cons_cons, String.intercalate_singleton,
      String.append_assoc]

namespace Engine

variable {e : Engine} {d : InformationSchema.Dialect}

/-- The column of a listing that holds the schema of a table. SQLite's listing has none. -/
def schemaColumn : Engine → String
  | postgres => "t.table_schema::text"
  | sqlServer => "s.name"
  | sqlite => ""

theorem exists_filtersBy (hd : e.dialect? = some d) :
    ∃ before after, FiltersBy e.schemaColumn d.tablesSql before after := by
  have hpostgres : ∃ before after,
      FiltersBy "t.table_schema::text" Postgres.tablesSql before after := by
    refine ⟨_, _, filtersBy_of_lines (fun _ _ => rfl) ?_⟩
    exact List.append_ne_nil_of_left_ne_nil (List.cons_ne_nil _ _) _
  have hsqlServer : ∃ before after, FiltersBy "s.name" SqlServer.tablesSql before after :=
    ⟨_, _, filtersBy_of_lines (fun _ _ => rfl) (List.cons_ne_nil _ _)⟩
  cases e with
  | postgres =>
    cases hd
    simpa only [Postgres.dialect, schemaColumn] using hpostgres
  | sqlServer =>
    cases hd
    simpa only [SqlServer.dialect, schemaColumn] using hsqlServer
  | sqlite => cases hd

/-- The listing of the tables is what is asked first. -/
theorem asks_listing (hd : e.dialect? = some d) (options : ExtractOptions) (naming : Naming) :
    ∃ next, e.tables options naming =
      .ask ⟨d.tablesSql naming options.schemas, options.schemas.map .string⟩ next := by
  cases e with
  | postgres => cases hd; exact ⟨_, rfl⟩
  | sqlServer => cases hd; exact ⟨_, rfl⟩
  | sqlite => cases hd

/-- Placeholders and parameters are in step. A list of placeholders consists of the tokens of its
parameters, no two of which are the same, and no two parameters have one token; SQLite binds a value
under the token of its place; and every token in the list of a listing's filter refers to the
parameter that is the schema at its own place. The numbers are those that fit in sixty-four bits. -/
theorem placeholders_in_step :
    (∀ (e : Engine) (start count : Nat), start + count < 2 ^ 64 →
      Text.items (e.naming.placeholders (.ofNat start) (.ofNat count)) =
          (List.range count).map (fun i => e.naming.token (.ofNat (start + i))) ∧
        (Text.items (e.naming.placeholders (.ofNat start) (.ofNat count))).Nodup) ∧
      (∀ (e : Engine) (i j : Nat), i < 2 ^ 64 - 1 → j < 2 ^ 64 - 1 →
        e.naming.token (.ofNat i) = e.naming.token (.ofNat j) → i = j) ∧
      (∀ (values : List Value) (i : Nat), (Sqlite.bound values)[i]? =
        values[i]?.map fun v => (Naming.sqlite.token (.ofNat i), Sqlite.Stored.ofValue v)) ∧
      ∀ (e strategy : Engine) (d : InformationSchema.Dialect) (options : ExtractOptions),
        e.dialect? = some d → options.schemas ≠ [] → options.schemas.length < 2 ^ 64 →
        ∃ before list after params next,
          e.tables options strategy.naming = .ask ⟨before ++ "  AND " ++ e.schemaColumn ++ " IN (" ++
            list ++ ")" ++ "\n" ++ after, params⟩ next ∧
          d.tablesSql strategy.naming [] = before ++ after ∧
          (Text.items list).length = options.schemas.length ∧
          params.length = options.schemas.length ∧
          ∀ (i : Nat) (schema : String), options.schemas[i]? = some schema →
            ∃ token place, (Text.items list)[i]? = some token ∧
              strategy.parameter? token = some place ∧ params[place]? = some (.string schema) := by
  refine ⟨fun e start count h => ?_, fun e i j => eq_of_token_eq, Sqlite.getElem?_bound, ?_⟩
  · rw [items_placeholders e h]
    exact ⟨rfl, nodup_tokens e h⟩
  · intro e strategy d options hd hne hfits
    obtain ⟨before, after, hfilters⟩ := exists_filtersBy hd
    obtain ⟨next, hasks⟩ := asks_listing hd options strategy.naming
    have hitems : Text.items (strategy.naming.placeholders 0 (.ofNat options.schemas.length)) =
        strategy.tokens 0 options.schemas.length :=
      items_placeholders strategy (by rwa [Nat.zero_add])
    refine ⟨before, _, after, _, next, by rw [hasks, hfilters.filtered _ hne],
      hfilters.unfiltered _, ?_, List.length_map _, fun i schema hschema => ?_⟩
    · rw [hitems, tokens, List.length_map, List.length_range]
    · obtain ⟨hi, -⟩ := List.getElem?_eq_some_iff.1 hschema
      refine ⟨_, i, by rw [hitems, getElem?_tokens _ hi, Nat.zero_add],
        parameter?_token strategy (by omega), ?_⟩
      rw [List.getElem?_map, hschema]
      rfl

/-- Eleven schemas, so that the numbers of their tokens have one digit or two. -/
def manySchemas : List String :=
  ["a", "b", "c", "d", "e", "f", "g", "h", "i", "j", "k"]

theorem placeholders_of_manySchemas :
    Text.items (Naming.sqlServer.placeholders 8 3) = ["@P9", "@P10", "@P11"] ∧
      Naming.postgres.token 1 ≠ Naming.postgres.token 10 ∧
      (Sqlite.bound [.null, .int64 7])[1]? = some (":p1", .integer 7) ∧
      ∃ before list after params next,
        postgres.tables { schemas := manySchemas } .postgres =
          .ask ⟨before ++ "  AND " ++ "t.table_schema::text" ++ " IN (" ++ list ++ ")" ++ "\n" ++ after,
            params⟩ next ∧
        ∃ token place, (Text.items list)[10]? = some token ∧
          postgres.parameter? token = some place ∧ params[place]? = some (.string "k") := by
  obtain ⟨hlists, hdistinct, hbound, hfilters⟩ := placeholders_in_step
  refine ⟨?_, ?_, hbound _ 1, ?_⟩
  · exact (hlists sqlServer 8 3 (by decide)).1
  · intro hsame
    exact absurd (hdistinct postgres 1 10 (by decide) (by decide) hsame) (by decide)
  · obtain ⟨before, list, after, params, next, hasks, -, -, -, hrefer⟩ :=
      hfilters postgres postgres _ { schemas := manySchemas } rfl (List.cons_ne_nil _ _) (by decide)
    exact ⟨before, list, after, params, next, hasks, hrefer 10 "k" rfl⟩

end Engine

end SchemaCatalog
