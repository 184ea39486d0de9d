import Handbook.Proofs.Table
import Handbook.Proofs.Template.Inserted
import Handbook.Proofs.Template.Overheard
import Handbook.Template.Engine

/-!
What a template says: its written meaning, read part by part. An engine renders a steady template that asks for
no partials to what it says, if all that it inserts is quiet.
-/

namespace Handbook.Template

open Text

variable {allowed : Fault → Prop} {helpers : Table Helper} {outer context : Table Value} {path : String} {rest : List Node}

def said (helpers : Table Helper) (outer context : Table Value) (nodes : List Node) : String :=
  String.ofList (writeAll (meaningAll helpers stay outer context nodes))

/-! Part by part. -/

@[simp]
theorem said_nil : said helpers outer context [] = "" := rfl

theorem said_append (first later : List Node) :
    said helpers outer context (first ++ later) = said helpers outer context first ++ said helpers outer context later := by
  rw [said, meaning_all_append, write_all_append, String.ofList_append]
  rfl

theorem said_cons (node : Node) : said helpers outer context (node :: rest)
    = said helpers outer context [node] ++ said helpers outer context rest := said_append [node] rest

@[simp]
theorem said_text (written : String) :
    said helpers outer context (.text written :: rest) = written ++ said helpers outer context rest := by
  rw [said_cons]
  simp [said, meaningAll, Node.meaning, writeAll, Node.write]

@[simp]
theorem said_variable : said helpers outer context (.variable path :: rest)
    = (valueAt context path).inserted ++ said helpers outer context rest := by
  rw [said_cons]
  simp [said, meaningAll, Node.meaning, writeAll, Node.write]

@[simp]
theorem said_branch {whenTrue : List Node} : said helpers outer context (.branch path whenTrue none :: rest)
    = (if (valueAt outer path).isTrue then said helpers outer outer whenTrue else "")
      ++ said helpers outer context rest := by
  rw [said_cons, said, meaningAll, Node.meaning, meaningAll, List.append_nil]
  split <;> rfl

theorem said_loop {body : List Node} {items : List Value} (list : valueAt context path = .list items) :
    said helpers outer context [.loop path body]
      = String.join ((roundContexts context items.length 0 items).map
          fun round => said helpers outer round body) := by
  rw [said, meaningAll, Node.meaning, meaningAll, List.append_nil, list, roundsOf]
  induction roundContexts context items.length 0 items with
  | nil => rfl
  | cons round later ih =>
    rw [List.flatMap_cons, write_all_append, String.ofList_append, ih, List.map_cons, String.join_cons, said]

theorem said_no_loop {body : List Node} (other : ∀ items, valueAt context path ≠ .list items) :
    said helpers outer context [.loop path body] = "" := by
  rw [said, meaningAll, Node.meaning, meaningAll, List.append_nil]
  cases found : valueAt context path with
  | list items => exact absurd found (other items)
  | _ => rfl

/-- A loop whose rounds depend on their items only. -/
theorem said_rounds {body : List Node} {block : Value → String} {items : List Value} {length : Nat}
    (each : ∀ item ∈ items, ∀ index,
      said helpers outer (roundContext context length index item) body = block item) (index : Nat) :
    String.join ((roundContexts context length index items).map fun round => said helpers outer round body)
      = String.join (items.map block) := by
  induction items generalizing index with
  | nil => rfl
  | cons item rest ih =>
    rw [roundContexts, List.map_cons, List.map_cons, String.join_cons, String.join_cons,
      each item (List.mem_cons_self ..), ih fun other member => each other (List.mem_cons_of_mem _ member)]

/-! Names of entries. -/

/-- A path that is the name of an entry, and that no loop binds. -/
def isEntryName (name : String) : Bool :=
  splitDots name.toList = [name.toList] && name ≠ "this" && name.toList.head? ≠ some '@'

theorem look_up_name {name : String} (simple : isEntryName name = true) (context : Table Value) :
    lookUp context name.toList = .ok ((context.get? name).getD .null) := by
  simp only [isEntryName, Bool.and_eq_true, decide_eq_true_eq] at simple
  obtain ⟨⟨whole, free⟩, mark⟩ := simple
  have apart : ¬ (name.toList = ['t', 'h', 'i', 's'] ∨ name.toList.head? = some '@') := by
    rintro (same | same)
    · exact free (String.toList_inj.1 same)
    · exact mark same
  rw [lookUp, if_neg apart, whole, follow, step, String.ofList_toList]
  rfl

theorem value_at_name {name : String} (simple : isEntryName name = true) (context : Table Value) :
    valueAt context name = (context.get? name).getD .null := value_at_eq (look_up_name simple context)

/-- In a round, an item that is no record is what the loop binds it to. -/
theorem this_in_round {value : Value} (single : ∀ entries, value ≠ .record entries) (context : Table Value)
    (length index : Nat) : lookUp (roundContext context length index value) "this".toList = .ok value := by
  have bound : (roundContext context length index value).get? "this" = some value := by
    have entry : (Table.merge context [("this", value), ("@index", .int index), ("@first", .bool (index = 0)),
        ("@last", .bool (index + 1 = length)), ("@length", .int length)]).get? "this" = some value := by
      apply Table.get?_merge_of_get?
      · change ["this", "@index", "@first", "@last", "@length"].Nodup
        decide
      · rfl
    cases value with
    | record entries => exact absurd rfl (single entries)
    | _ => exact entry
  rw [lookUp, if_pos (.inl rfl), String.ofList_toList, bound]
  rfl

/-- In a round over a record, the record's own entries come first. -/
theorem round_value {entries : Table Value} {name : String} {value : Value} (simple : isEntryName name = true)
    (distinct : entries.keys.Nodup) (own : entries.get? name = some value) (length index : Nat) :
    valueAt (roundContext context length index (.record entries)) name = value := by
  rw [value_at_name simple, roundContext, Table.get?_merge_of_get? distinct own]
  rfl

/-! Rendering. -/

theorem engine_overhears {engine : Engine} {nodes : List Node} {spoken : String → List Node}
    (formed : wellFormedAll false nodes = true) (whole : mentionedAll nodes = [])
    (room : 2 * heightAll nodes ≤ nestingLimit) (speaks : Speaks Faultless context spoken nodes)
    (evaluable : Evaluable Faultless engine.helpers context (nodes.flatMap (Node.filled spoken))) :
    engine.render (String.ofList (writeAll nodes)) context
      = (.ok (said engine.helpers context context (nodes.flatMap (Node.filled spoken))), engine) := by
  have closed : Closed engine.scope nodes := by
    rw [Closed, whole]
    exact fun name member => absurd member List.not_mem_nil
  have yields : Yields Faultless engine.active _ _ := overheard formed closed speaks evaluable room
  rw [Engine.render, renderFrom, String.toList_ofList, run_of_yields yields]
  rfl

theorem template_yields {engine : Engine} {nodes : List Node} (whole : mentionedAll nodes = [])
    (room : 2 * heightAll nodes ≤ nestingLimit) (evaluable : Evaluable allowed engine.helpers context nodes) :
    Yields allowed engine.active (writeAll (meaningAll engine.helpers stay context context nodes))
      (renderAt engine.scope nestingLimit (writeAll nodes) context) := by
  have closed : Closed engine.scope nodes := by
    rw [Closed, whole]
    exact fun name member => absurd member List.not_mem_nil
  exact closed_meaning nestingLimit nodes context room closed evaluable

theorem engine_evaluates {engine : Engine} {nodes : List Node} (whole : mentionedAll nodes = [])
    (room : 2 * heightAll nodes ≤ nestingLimit) (evaluable : Evaluable Faultless engine.helpers context nodes) :
    engine.render (String.ofList (writeAll nodes)) context
      = (.ok (said engine.helpers context context nodes), engine) := by
  rw [Engine.render, renderFrom, String.toList_ofList, run_of_yields (template_yields whole room evaluable)]
  rfl

/-- A steady template says what it says or ends in a fault that is allowed. -/
theorem engine_says {engine : Engine} {nodes : List Node} (formed : wellFormedAll false nodes = true)
    (steady : steadyAll nodes = true) (whole : mentionedAll nodes = []) (room : 2 * heightAll nodes ≤ nestingLimit)
    (inserts : ∀ reply ∈ insertedReplies engine.helpers context nodes, Inserts allowed reply) :
    (engine.render (String.ofList (writeAll nodes)) context).1 = .ok (said engine.helpers context context nodes) ∨
      ∃ fault, allowed fault ∧ (engine.render (String.ofList (writeAll nodes)) context).1 = .error fault := by
  rw [Engine.render, renderFrom, String.toList_ofList]
  rcases template_yields whole room (evaluable_of_steady formed steady inserts) with done | ⟨fault, fine, failed⟩
  · rw [done]
    exact .inl rfl
  · rw [failed]
    exact .inr ⟨fault, fine, rfl⟩

end Handbook.Template
