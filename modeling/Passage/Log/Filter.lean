import Passage.Log.Directive

/- Filters of log events: lists of directives with commas between them.

   The normal form has the directives that an event alone decides first, and
   then those that look at spans and fields. A field without a value counts
   for both. Of each kind the most specific come first, and of two that only
   differ in their levels the later counts. -/
namespace Passage.Log

structure Filter where
  /-- Directives for events. -/
  plain : List Directive
  /-- Directives for spans and what is in them. -/
  contextual : List Directive
  deriving DecidableEq, Repr

/-- Whether a directive looks at spans or fields. -/
def Directive.isContextual (d : Directive) : Bool := d.span.isSome || d.field.isSome

/-- Whether an event alone decides a directive: whether it has a field, but not with which value. -/
def Directive.isPlain (d : Directive) : Bool :=
  d.span.isNone && !d.field.any (·.value.isSome)

namespace Filter

/-- Puts a directive in its place, or in that of one that differs in its level only. -/
def insert (d : Directive) : List Directive → List Directive
  | [] => [d]
  | e :: rest =>
    match d.order e with
    | .eq => d :: rest
    | .gt => d :: e :: rest
    | .lt => e :: insert d rest

/-- Directives in the order of the normal form. -/
def arrange (ds : List Directive) : List Directive := ds.foldl (fun set d => insert d set) []

/-- The filter of directives: those that are contextual as well count after the others. -/
def ofDirectives (ds : List Directive) : Filter where
  plain := arrange (ds.filter (!·.isContextual) ++ ds.filter fun d => d.isContextual && d.isPlain)
  contextual := arrange (ds.filter Directive.isContextual)

/-- The directives of texts up to the first that is none. -/
def parseAll : List String → Except (Halt FilterFault) (List Directive)
  | [] => .ok []
  | s :: rest =>
    match Directive.parse s.toList with
    | .error halt => .error halt
    | .ok d =>
      match parseAll rest with
      | .error halt => .error halt
      | .ok ds => .ok (d :: ds)

/-- Reads a filter; between two commas there may be nothing. -/
def parse (s : String) : Except (Halt FilterFault) Filter :=
  match parseAll ((s.splitOn ",").filter (!·.isEmpty)) with
  | .error halt => .error halt
  | .ok ds => .ok (ofDirectives ds)

def describe (f : Filter) : String := ",".intercalate ((f.plain ++ f.contextual).map Directive.describe)

end Filter
end Passage.Log
