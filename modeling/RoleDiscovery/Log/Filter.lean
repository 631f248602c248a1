import RoleDiscovery.Keyed
import RoleDiscovery.Log.Directive

/-!
# Log filters

A filter is a row of directives separated by commas. Of the directives that fit, the most specific
one counts; those inside spans only add to what is shown. A directive that cannot be read is left
out, and without any the level is that of information.

Results:

* `Filter.ofText`: a filter.
* `Filter.show?`: an entry as the filter shows it.
-/

namespace RoleDiscovery

/-- A filter: the directives that need no spans, and those about the inside of spans. -/
structure Filter where
  statics : List Directive
  dynamics : List Directive

namespace Filter

/-- The filter of some directives. -/
def ofDirectives (directives : List Directive) : Filter where
  statics :=
    directives.filter (fun d => !d.isDynamic) ++
      directives.filter (fun d => d.isDynamic && d.isStatic)
  dynamics := directives.filter Directive.isDynamic

/-- The filter that a text spells. -/
def ofText (text : String) : Filter :=
  match (text.toList.splitOn ',').filterMap Directive.parse? with
  | [] => ofDirectives [{ level := some .info }]
  | directives => ofDirectives directives

/-- The most specific of some directives; of equally specific ones the last. -/
def mostSpecific? (directives : List Directive) : Option Directive :=
  directives.foldl (fun best d =>
    match best with
    | none => some d
    | some other => if d.isAsSpecific other then some d else best) none

/-- Whether the directives that need no spans show entries of a level. Fields count for events
only. -/
def showsStatic (f : Filter) (level : LogLevel) (target : String)
    (fields : Option (List String)) : Bool :=
  let fitting := f.statics.filter fun d =>
    d.fitsTarget target && fields.all fun names => d.fitsFields names
  (mostSpecific? fitting).any fun d => d.level.shows level

/-- The most detailed level that any directive could show. -/
def maxDetail (f : Filter) : Nat :=
  if f.dynamics.any fun d => d.fields.any fun field => field.value.isSome then 5
  else ((f.statics ++ f.dynamics).map fun d => d.level.detail).foldl max 0

/-- The directives about the inside of a span, whatever the values of its fields. Of those about the
same the last one counts. -/
def directivesFor (f : Filter) (span : Span) : List Directive :=
  (Keyed.collapse Directive.subject f.dynamics).filter fun d =>
    d.fitsTarget span.target && d.span.all (· = span.name) &&
      d.fitsFields (span.fields.map Prod.fst)

/-- Whether the values of the fields of a span are those that a directive asks for. The fields of
spans are texts. -/
def fitsValues (d : Directive) (span : Span) : Bool :=
  d.fields.all fun field => field.value.isNone ||
    span.fields.any fun (name, text) => name = field.name && field.fits text

/-- The level that is shown inside a span because of it. -/
def levelInside (f : Filter) (span : Span) : Nat :=
  (((f.directivesFor span).filter fun d => fitsValues d span).map
    fun d => d.level.detail).foldl max 0

/-- The spans around an entry that are shown, and the most detailed level that is shown inside
them. All spans are of the level of information. -/
def shownSpans (f : Filter) (inside : Nat) : List Span → List Span × Nat
  | [] => ([], inside)
  | span :: rest =>
    let known := !(f.directivesFor span).isEmpty
    let shown := LogLevel.info.detail ≤ f.maxDetail &&
      (known || f.showsStatic .info span.target none || LogLevel.info.detail ≤ inside)
    if shown then
      let (spans, inside) := f.shownSpans (max inside (f.levelInside span)) rest
      (span :: spans, inside)
    else f.shownSpans inside rest

/-- An entry as it is shown: without the spans that are not. `none` if it is not shown at all. -/
def show? (f : Filter) (entry : LogEntry) : Option LogEntry :=
  let event := entry.event
  let (spans, inside) := f.shownSpans 0 entry.spans
  let names := "message" :: event.fields.map Prod.fst
  if event.level.detail ≤ f.maxDetail &&
      (f.showsStatic event.level event.target (some names) || event.level.detail ≤ inside) then
    some { entry with spans }
  else none

end Filter

end RoleDiscovery
