import TreePlan.Log.Record

/-!
# Log filters

A filter keeps rules, the most specific first: longer targets before shorter ones, more fields
before fewer. The first rule that a record falls under decides whether it is logged. Directives
that ask for a span or for the value of a field never apply, for no record is made within a span.
-/

namespace TreePlan.Log

/-- What is logged of the records of a target that have some fields. -/
structure Rule where
  /-- What the target begins with. -/
  target? : Option String
  /-- The fields that have to be there. -/
  fields : List String
  /-- The level. -/
  level : Level
deriving DecidableEq, Repr

namespace Rule

/-- The rule of a directive, if it can apply. -/
def ofDirective? (d : Directive) : Option Rule :=
  if d.span?.isSome ∨ d.fields.any (·.hasValue) then none
  else some ⟨d.target?, d.fields.map (·.name), d.level⟩

/-- How specific a target is. -/
def reach (r : Rule) : Nat := (r.target?.map fun target => target.utf8ByteSize + 1).getD 0

/-- Whether two rules are about the same records. -/
def sameScope (r s : Rule) : Bool := r.target? == s.target? && r.fields == s.fields

/-- Whether a rule comes before another. -/
def precedes (r s : Rule) : Bool :=
  let compared := (Ord.compare s.reach r.reach).then
    ((Ord.compare s.fields.length r.fields.length).then
      ((Ord.compare (s.target?.getD "") (r.target?.getD "")).then
        (Ord.compare s.fields r.fields)))
  compared == .lt

/-- Whether a record falls under a rule. -/
def covers (r : Rule) (record : Record) : Bool :=
  (r.target?.map fun target => target.toList.isPrefixOf record.target.toList).getD true &&
    r.fields.all fun name => name == "message" || record.fields.any (·.1 == name)

end Rule

/-- Rules, the most specific first. -/
structure Filter where
  /-- The rules. -/
  rules : List Rule
deriving DecidableEq, Inhabited, Repr

namespace Filter

/-- The filter that lets nothing through. -/
def off : Filter := ⟨[⟨none, [], .off⟩]⟩

/-- Puts a rule in its place, or in the place of one about the same records. -/
def insertRule (r : Rule) : List Rule → List Rule
  | [] => [r]
  | s :: rest =>
    if r.sameScope s then r :: rest
    else if r.precedes s then r :: s :: rest
    else s :: insertRule r rest

/-- The filter with one more directive. -/
def add (f : Filter) (d : Directive) : Filter :=
  match Rule.ofDirective? d with
  | none => f
  | some r => ⟨insertRule r f.rules⟩

/-- The filter of directives; without any, errors are logged. -/
def ofDirectives (ds : List Directive) : Filter :=
  if ds.isEmpty then ⟨[⟨none, [], .error⟩]⟩ else ds.foldl add ⟨[]⟩

/-- Whether a record is logged. -/
def allows (f : Filter) (record : Record) : Bool :=
  match f.rules.find? (·.covers record) with
  | some r => record.level.rank ≤ r.level.rank
  | none => false

end Filter

end TreePlan.Log
