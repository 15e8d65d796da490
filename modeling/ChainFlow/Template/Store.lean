import ChainFlow.Fault
import ChainFlow.Graph.Basic
import ChainFlow.Json.Reader
import ChainFlow.Template.Examples

/-!
# The template store

Templates are kept in the text of one file. A text that is not a list of templates counts as an
empty store, and the next template that is saved replaces it; only a text nested too deep to be read
is a fault. What is nested too deep to be written is not saved. Ids are made of the time and of
letters drawn from an alphabet.
-/

namespace ChainFlow

structure TemplateStore where
  /-- The text of the file, if there is one. -/
  text : Option String
  /-- How many letters of ids have been drawn. -/
  drawn : Nat

namespace TemplateStore

def empty : TemplateStore := ⟨none, 0⟩

def templatesOf (now : Int) (text : String) : Except Fault (List Template) :=
  match Json.parse text.toList with
  | .error ⟨.depth container, _⟩ => .error (.tooDeep container)
  | .error _ => .ok []
  | .ok value => .ok ((Schema.list (Template.read now) value).toOption.getD [])

def saved (store : TemplateStore) (now : Int) : Except Fault (List Template) :=
  match store.text with
  | none => .ok []
  | some text => templatesOf now text

def textOf (templates : List Template) : String :=
  String.ofList (Json.arr (templates.map (·.dump .document))).indented

def write (store : TemplateStore) (templates : List Template) : Except Fault TemplateStore :=
  if templates.all (·.fitsLevels) then .ok { store with text := some (textOf templates) }
  else .error .tooNested

def alphabet : List Char := "abcdefghijklmnopqrstuvwxyz0123456789".toList

def idLetters : Nat := 9

def letter (position : Nat) : Char := (alphabet[position % alphabet.length]?).getD 'a'

/-- A new id, and the store with its letters drawn. -/
def newId (store : TemplateStore) (now : Int) : String × TemplateStore :=
  let letters := (List.range idLetters).map fun index => letter (store.drawn + index)
  (s!"template-{String.ofList (Text.integer now)}-{String.ofList letters}",
    { store with drawn := store.drawn + idLetters })

def add (store : TemplateStore) (now : Int) (template : Template) : Except Fault TemplateStore :=
  (store.saved now).bind fun templates => store.write (templates ++ [template])

/-- A computation that changes a store: what it comes to beside the new store, or the store as it
was. -/
def orUnchanged {α : Type} (store : TemplateStore) :
    Except Fault (α × TemplateStore) → Except Fault α × TemplateStore
  | .ok (value, changed) => (.ok value, changed)
  | .error fault => (.error fault, store)

/-- Saves a drawing under a new id. The letters of the id are drawn even if the drawing cannot be
saved. -/
def save (store : TemplateStore) (now : Int) (name description : String) (graph : Graph)
    (tags : Option (List String)) : Except Fault Template × TemplateStore :=
  let (id, store) := store.newId now
  let template : Template := ⟨id, name, description, graph.nodes, graph.edges, now, now, tags⟩
  store.orUnchanged ((store.add now template).map (template, ·))

/-- The template of an id among those of the store, or else among the examples. -/
def find? (store : TemplateStore) (now : Int) (id : String) : Except Fault (Option Template) :=
  (store.saved now).map fun templates =>
    match templates.find? (·.id == id) with
    | some template => some template
    | none => (Template.examples now).find? (·.id == id)

/-- A template with some of its fields set, read anew. Neither the id nor the time at which it was
created can be set by its plain name; the time of the update is the present one. -/
def revised (template : Template) (updates : Fields) (now : Int) : Except Fault Template :=
  match template.dump .plain with
  | .obj fields =>
    let updates := (updates.erase "id").erase "created_at"
    ofReading Template.record
      (Template.read now (.obj (Fields.put (Fields.merge fields updates) "updated_at" (.int now))))
  | _ => .ok template

/-- A list with the first template of an id replaced, and the new one; nothing if there is none. -/
def reviseFirst (id : String) (revise : Template → Except Fault Template) :
    List Template → Option (Except Fault (Template × List Template))
  | [] => none
  | template :: rest =>
    if template.id = id then some ((revise template).map fun revised => (revised, revised :: rest))
    else (reviseFirst id revise rest).map fun result =>
      result.map fun (revised, rest) => (revised, template :: rest)

def update (store : TemplateStore) (now : Int) (id : String) (updates : Fields) :
    Except Fault (Option Template) × TemplateStore :=
  store.orUnchanged do
    let updates ← besides "TemplateService.update_template" ["self", "template_id"] updates
    match reviseFirst id (revised · updates now) (← store.saved now) with
    | none => return (none, store)
    | some revision =>
      let (template, templates) ← revision
      return (some template, ← store.write templates)

/-- Deletes the saved templates of an id, and says whether there was one. -/
def delete (store : TemplateStore) (now : Int) (id : String) :
    Except Fault Bool × TemplateStore :=
  store.orUnchanged do
    let templates ← store.saved now
    let rest := templates.filter (·.id ≠ id)
    if rest.length = templates.length then return (false, store)
    else return (true, ← store.write rest)

/-- The drawing of a template. It has to keep the structural rules. -/
def load (store : TemplateStore) (now : Int) (id : String) : Except Fault Graph :=
  match store.find? now id with
  | .error fault => .error fault
  | .ok none => .error (.noTemplate id)
  | .ok (some template) =>
    match Graph.issues template.nodes template.edges with
    | .error fault => .error fault
    | .ok [] => .ok ⟨template.nodes, template.edges⟩
    | .ok issues => .error (.illFormed issues (Graph.startNode? template.nodes).isSome)

end TemplateStore

end ChainFlow
