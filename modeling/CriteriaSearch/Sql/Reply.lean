import CriteriaSearch.Sql.Hazard
import CriteriaSearch.Sql.Table

/-!
# Replies to queries

The rows that a query asks for. The rows of its source are filtered, gathered into groups, turned
into rows of the result, put in order and cut to a window. A query within an expression sees the
columns of the rows around it where its own source has none of that name.
-/

namespace CriteriaSearch.Sql

structure Heading where
  name : String
  affinity : Option Affinity
  collation : Collation
  deriving DecidableEq, Repr

/-- The source of a query: columns under the name of a table, and rows. -/
structure Frame where
  label : String
  headings : List Heading
  hasIds : Bool
  rows : List Row
  fault : Option Fault

namespace Frame

def ofTable (t : Table) (label : String) : Frame where
  label := label
  headings := t.columns.map fun c => ⟨c.name, some c.affinity, c.collation⟩
  hasIds := t.order.isNone
  rows := t.listed
  fault := none

def single : Frame := ⟨"", [], false, [⟨0, []⟩], none⟩

def hasColumn (f : Frame) (table : Option TableName) (name : String) : Bool :=
  table.all (TableName.means · f.label) &&
    (f.headings.any (fun h => sameName h.name name) || (f.hasIds && Table.isRowIdName name))

def column (f : Frame) (row : Row) : Lookup := fun table name =>
  if table.all (TableName.means · f.label) then
    match (f.headings.zip row.cells).find? (fun c => sameName c.1.name name) with
    | some (h, cell) => some ⟨cell, h.affinity, h.collation⟩
    | none =>
      if f.hasIds && Table.isRowIdName name then
        some ⟨.integer row.id, some .integer, .binary⟩
      else none
  else none

def ofNames (names : List String) (label : String) : Frame :=
  ⟨label, names.map fun name => ⟨name, none, .binary⟩, false, [], none⟩

def noRow (f : Frame) : Lookup := fun table name =>
  (f.column ⟨0, f.headings.map fun _ => .null⟩ table name).map fun s => { s with cell := .null }

end Frame

/-! ## Parts of a result -/

structure Projection where
  value : Expr
  name : String
  isNamed : Bool

def Frame.projections (f : Frame) (columns : List ResultColumn) : List Projection :=
  let all := f.headings.map fun h => Projection.mk (.column none h.name []) h.name false
  columns.flatMap fun
    | .all => all
    | .allOf table => if sameName table f.label then all else []
    | .value e name isNamed => [⟨e, name, isNamed⟩]

def named? (ps : List Projection) (name : String) : Option Expr :=
  (ps.find? fun p => p.isNamed && sameName p.name name).map Projection.value

/-- The scope in which the names that the query gives stand for their values where no column has
them. -/
def Scope.withNamed (s : Scope) (ps : List Projection) : Scope :=
  { s with
    column := fun table name =>
      (s.column table name).or <|
        if table.isNone then
          (named? ps name).map fun e => ⟨e.eval s, e.affinity s, e.collation s⟩
        else none }

def columnNumber? : Expr → Option Int
  | .literal (.integer n) => some n
  | .plus e | .collate e _ => columnNumber? e
  | .arithmetic .subtract (.literal (.integer 0)) e => (columnNumber? e).map fun n => -n
  | _ => none

/-- The value that a key of a group means: a column of the result by its number, or the value of the
key itself. -/
def groupValue (ps : List Projection) (key : Expr) : Expr :=
  match columnNumber? key with
  | some n => ((ps[n.toNat - 1]?).map Projection.value).getD key
  | none => key

/-- The value that a key of an order means: a column of the result by its number or by the name that
the query gives it, or the value of the key itself. -/
def orderValue (ps : List Projection) (key : Expr) : Expr :=
  match key with
  | .column none name _ | .quoted name => (named? ps name).getD key
  | .collate e collation => .collate (orderValue ps e) collation
  | key => groupValue ps key

def orderCell (scope : Scope) (ps : List Projection) (k : OrderKey) : Cell × Collation :=
  let e := orderValue ps k.key
  (e.eval scope, e.collation scope)

/-- A row of a result with the cells by which it is put in order. -/
structure Outcome where
  cells : List Cell
  keys : List (Cell × Collation)

def compareKey (k : OrderKey) (collation : Collation) (a b : Cell) : Ordering :=
  match a.isNull, b.isNull with
  | true, true => .eq
  | true, false => if k.nullsFirst then .lt else .gt
  | false, true => if k.nullsFirst then .gt else .lt
  | false, false => k.direction.apply (a.orderBy collation b)

def compareByKeys : List OrderKey → List (Cell × Collation) → List (Cell × Collation) → Ordering
  | k :: ks, a :: as, b :: bs => (compareKey k a.2 a.1 b.1).then (compareByKeys ks as bs)
  | _, _, _ => .eq

def sortOutcomes (order : List OrderKey) (rows : List Outcome) : List Outcome :=
  if order.isEmpty then rows
  else rows.mergeSort fun a b => (compareByKeys order a.keys b.keys).isLE

/-- The rows of a window; a limit below zero is none. -/
def window {α : Type} (limit offset : Option Int) (rows : List α) : List α :=
  let rest := rows.drop (offset.getD 0).toNat
  match limit with
  | some n => if n < 0 then rest else rest.take n.toNat
  | none => rest

def boundOf (params : List Cell) (e : Expr) : Option Int :=
  match (e.eval (.ofParams params)).store .numeric with
  | .integer n => some n
  | _ => none

def compareCells : List Cell → List Cell → Ordering
  | a :: as, b :: bs => (a.order b).then (compareCells as bs)
  | [], [] => .eq
  | [], _ :: _ => .lt
  | _ :: _, [] => .gt

def sortedSet (rows : List (List Cell)) : List (List Cell) :=
  distinctRows (rows.mergeSort fun a b => (compareCells a b).isLE)

namespace SetOperation

def apply (operation : SetOperation) (a b : List (List Cell)) : List (List Cell) :=
  let isIn (rows : List (List Cell)) (row : List Cell) : Bool :=
    rows.any fun other => compareCells row other == .eq
  match operation with
  | .unionAll => a ++ b
  | .union => sortedSet (a ++ b)
  | .except => sortedSet (a.filter fun row => !isIn b row)
  | .intersect => sortedSet (a.filter (isIn b))

end SetOperation

/-- The rows of groups with the same cells under some collations, in the order of these cells. -/
def gather {α : Type} (rows : List (List (Cell × Collation) × α)) : List (List α) :=
  let compare (a b : List (Cell × Collation)) : Ordering :=
    (a.zip b).foldr (fun (x, y) o => (x.1.orderBy x.2 y.1).then o) .eq
  let sorted := rows.mergeSort fun a b => (compare a.1 b.1).isLE
  (sorted.splitBy fun a b => compare a.1 b.1 == .eq).map (·.map Prod.snd)

def orderPlace? (names : List String) (key : Expr) : Option Nat :=
  match columnNumber? key with
  | some n => if 1 ≤ n then some (n.toNat - 1) else none
  | none =>
    match key with
    | .column none name _ | .quoted name => names.findIdx? (sameName name)
    | .collate (.column none name _) _ | .collate (.quoted name) _ =>
      names.findIdx? (sameName name)
    | _ => none

def placedCell (headings : List Heading) (cells : List Cell) (key : Expr) : Cell × Collation :=
  match orderPlace? (headings.map Heading.name) key with
  | some n =>
    ((cells[n]?).getD .null,
      ((Expr.askedCollation? key).or ((headings[n]?).map Heading.collation)).getD .binary)
  | none => (.null, .binary)

/-! ## Queries -/

structure View where
  name : String
  isTemporary : Bool
  /-- The names of its columns; without them, the columns have those of the query. -/
  columns : Option (List String)
  query : SelectQuery

/-- What a query can see beside its own source: the tables and views, the parameters, and the
columns of the row that it is asked for. -/
structure Site where
  table? : TableName → Option Table
  view? : TableName → Option View
  params : List Cell
  counts : Counts
  outer : Lookup

namespace Site

/-- The columns of a row, and those around it where it has none of that name. -/
def within (s : Site) (column : Lookup) : Site :=
  { s with outer := fun table name => (column table name).or (s.outer table name) }

end Site

/-- What is made of a part of a query: columns, rows with their keys, and the first fault met. -/
structure Outcomes where
  headings : List Heading
  rows : List Outcome
  fault : Option Fault

namespace Outcomes

def empty : Outcomes := ⟨[], [], none⟩

end Outcomes

structure Result where
  headings : List Heading
  rows : List (List Cell)
  fault : Option Fault

/-- The frame of the rows of a query under a name. Its columns may have other names than the query
gives them. -/
def Frame.ofResult (r : Result) (columns : Option (List String)) (label : String) : Frame where
  label := label
  headings := match columns with
    | some names => (names.zip r.headings).map fun (name, h) => { h with name := name }
    | none => r.headings
  hasIds := false
  rows := r.rows.map fun cells => ⟨0, cells⟩
  fault := r.fault

/-- The row whose columns stand for those of its group: the first one, or the one with the greatest
or the least value if that is asked for. -/
def spokesman? (extreme : Option (Bool × Expr)) (rows : List Scope) : Option Scope :=
  match extreme with
  | none => rows.head?
  | some (isGreatest, e) =>
    let better (old new : Cell) (scope : Scope) : Bool :=
      old.isNull || (!new.isNull &&
        old.orderBy (e.collation scope) new == if isGreatest then .lt else .gt)
    let choose (best : Option (Cell × Scope)) (scope : Scope) : Option (Cell × Scope) :=
      let c := e.eval scope
      if best.all fun b => better b.1 c scope then some (c, scope) else best
    (rows.foldl choose none).map Prod.snd

/-- The scopes of the groups of some rows. All rows are one group if nothing is grouped by; `blank`
stands for the rows of a group that has none. -/
def groupScopes (ps : List Projection) (groups : List Expr) (extreme : Option (Bool × Expr))
    (blank : Scope) (rows : List Scope) : List Scope :=
  let gathered := if groups.isEmpty then [rows]
    else gather <| rows.map fun scope =>
      (groups.map fun e => ((groupValue ps e).eval scope, e.collation scope), scope)
  gathered.map fun group =>
    { (spokesman? extreme group).getD blank with group := group.map Scope.column }

def distinctOutcomes (rows : List Outcome) : List Outcome :=
  rows.foldr (fun o rest =>
    o :: rest.filter fun other => compareCells o.cells other.cells != .eq) []

mutual

/-- The columns and the rows of a result. The queries within each other are at most so many. -/
def SelectQuery.result : Nat → Site → SelectQuery → Result
  | 0, _, _ => ⟨[], [], none⟩
  | depth + 1, site, q =>
    let made := Body.outcomes depth site q.order q.body
    let sorted := sortOutcomes q.order made.rows
    let cut := window (q.limit.bind (boundOf site.params)) (q.offset.bind (boundOf site.params))
      sorted
    ⟨made.headings, cut.map Outcome.cells, made.fault⟩

def Body.outcomes : Nat → Site → List OrderKey → Body → Outcomes
  | 0, _, _, _ => .empty
  | depth + 1, site, order, body =>
    match body with
    | .select s => Selection.outcomes depth site order s
    | .values rows =>
      let scope : Scope :=
        ⟨site.outer, site.params, fun q => SelectQuery.reply depth site q, [], site.counts⟩
      let width := rows.head?.elim 0 List.length
      ⟨(List.range width).map fun n => ⟨"column" ++ toString (n + 1), none, .binary⟩,
        rows.map fun row => ⟨Expr.evalList scope row, []⟩,
        rows.findSome? (Expr.faultAmong? scope)⟩
    | .combine operation a b =>
      let left := Body.outcomes depth site [] a
      let right := Body.outcomes depth site [] b
      let rows := operation.apply (left.rows.map Outcome.cells) (right.rows.map Outcome.cells)
      ⟨left.headings,
        rows.map fun cells => ⟨cells, order.map fun k => placedCell left.headings cells k.key⟩,
        left.fault.or right.fault⟩

def Selection.outcomes : Nat → Site → List OrderKey → Selection → Outcomes
  | 0, _, _, _ => .empty
  | depth + 1, site, order, s =>
    let frame := Source.frame depth site s.source
    let ps := frame.projections s.columns
    let scopeOf (column : Lookup) : Scope :=
      let inner := site.within column
      Scope.withNamed
        ⟨inner.outer, site.params, fun q => SelectQuery.reply depth inner q, [], site.counts⟩ ps
    let blank := scopeOf frame.noRow
    let all := frame.rows.map fun row => scopeOf (frame.column row)
    let chosen := all.filter fun scope => s.condition.all fun e => e.holds scope
    let isGrouped := !s.groups.isEmpty || ps.any fun p => p.value.hasGrouping
    let extreme := Expr.lastExtremeAmong? <|
      ps.map Projection.value ++ order.map (orderValue ps ·.key) ++ s.having.toList
    let groups := if isGrouped then groupScopes ps s.groups extreme blank chosen else chosen
    let scopes := groups.filter fun scope => s.having.all fun e => e.holds scope
    let rows := scopes.map fun scope =>
      Outcome.mk (ps.map fun p => p.value.eval scope) (order.map (orderCell scope ps))
    -- Faults in the order in which the parts of the query are worked out.
    let fault := frame.fault.or <| (s.condition.bind (Expr.faultOn? all)).or <|
      (s.groups.findSome? (Expr.faultOn? chosen)).or <| (s.having.bind (Expr.faultOn? groups)).or <|
      (ps.findSome? fun p => p.value.faultOn? scopes).or <|
      order.findSome? fun k => (orderValue ps k.key).faultOn? scopes
    ⟨ps.map fun p => ⟨p.name, p.value.affinity blank, p.value.collation blank⟩,
      if s.distinct then distinctOutcomes rows else rows, fault⟩

def Source.frame : Nat → Site → Source → Frame
  | 0, _, _ => Frame.single
  | depth + 1, site, source =>
    match source with
    | .nothing => Frame.single
    | .table name label _ =>
      match site.table? name with
      | some t => Frame.ofTable t (label.getD t.name)
      | none =>
        match site.view? name with
        | some v =>
          -- A view sees nothing of the rows around the query that names it.
          let result := SelectQuery.result depth { site with outer := fun _ _ => none } v.query
          Frame.ofResult result v.columns (label.getD v.name)
        | none => Frame.single
    | .query q label =>
      Frame.ofResult (SelectQuery.result depth site q) none (label.getD "")

def SelectQuery.reply : Nat → Site → SelectQuery → Reply
  | 0, _, _ => .empty
  | depth + 1, site, q =>
    let result := SelectQuery.result depth site q
    ⟨result.headings.map Heading.affinity, result.rows, result.fault⟩

end

/-! ## Checks -/

structure NameSite where
  table? : TableName → Option Table
  view? : TableName → Option View
  outer : Option TableName → String → Bool

/-- The fault of the keys of the order of a selection, if there is one. Numbers below one are found
before names are looked at, and those beyond the width of the result after them. -/
def checkOrder (names : Names) (ps : List Projection) (order : List OrderKey) :
    Except Fault Unit := do
  for (k, n) in order.zipIdx 1 do
    match columnNumber? k.key with
    | some m => if m < 1 then throw (.orderTerm n ps.length (some k.place))
    | none => (orderValue ps k.key).check names
  for (k, n) in order.zipIdx 1 do
    if (columnNumber? k.key).any fun m => (ps.length : Int) < m then
      throw (.orderTerm n ps.length none)
    Expr.checkCollation [orderValue ps k.key]

def checkGroups (names : Names) (ps : List Projection) (groups : List Expr) :
    Except Fault Unit := do
  for (e, n) in groups.zipIdx 1 do
    match columnNumber? e with
    | some m => if m < 1 then throw (.groupTerm n ps.length)
    | none => e.check names
  for (e, n) in groups.zipIdx 1 do
    if (columnNumber? e).any fun m => (ps.length : Int) < m then throw (.groupTerm n ps.length)
    if (groupValue ps e).hasGrouping then throw .aggregateInGroup
    Expr.checkCollation [groupValue ps e]

def checkPlaces (names : List String) (order : List OrderKey) : Except Fault Unit := do
  for (k, n) in order.zipIdx 1 do
    match columnNumber? k.key with
    | some m =>
      if m < 1 ∨ (names.length : Int) < m then
        throw (.orderTerm n names.length (some k.place))
    | none => if (orderPlace? names k.key).isNone then throw (.unmatchedOrderTerm n)

mutual

def SelectQuery.check : Nat → NameSite → SelectQuery → Except Fault (List String)
  | 0, _, _ => .ok []
  | depth + 1, site, q =>
    match q.body with
    | .select s => Selection.check depth site q.order (q.limit.toList ++ q.offset.toList) s
    | body => do
      let names ← Body.check depth site body
      Expr.checkList Names.none (q.limit.toList ++ q.offset.toList)
      checkPlaces names q.order
      return names

def Body.check : Nat → NameSite → Body → Except Fault (List String)
  | 0, _, _ => .ok []
  | depth + 1, site, body =>
    match body with
    | .select s => Selection.check depth site [] [] s
    | .values rows => do
      let names : Names :=
        ⟨site.outer, fun q => (SelectQuery.check depth site q).map List.length, .forbidden⟩
      rows.forM (Expr.checkList names)
      let width := rows.head?.elim 0 List.length
      if rows.all fun row => row.length == width then
        return (List.range width).map fun n => "column" ++ toString (n + 1)
      else throw .unevenRows
    | .combine operation a b => do
      let left ← Body.check depth site a
      let right ← Body.check depth site b
      if left.length = right.length then return left
      else throw (.unevenParts operation.words)

def Selection.check : Nat → NameSite → List OrderKey → List Expr → Selection →
    Except Fault (List String)
  | 0, _, _, _, _ => .ok []
  | depth + 1, site, order, bounds, s => do
    let frame ← Source.check depth site s.source
    for column in s.columns do
      match column, s.source with
      | .all, .nothing => throw .noTables
      | .allOf table, .nothing => throw (.noSuchTable table)
      | .allOf table, _ =>
        if !sameName table frame.label then throw (.noSuchTable table)
      | _, _ => pure ()
    Expr.checkList Names.none bounds
    let ps := frame.projections s.columns
    let hasColumn (table : Option TableName) (name : String) : Bool :=
      frame.hasColumn table name || site.outer table name
    let inner : NameSite := { site with outer := hasColumn }
    let names : Names :=
      ⟨hasColumn, fun q => (SelectQuery.check depth inner q).map List.length, .allowed⟩
    Expr.checkList names (ps.map Projection.value)
    let isGrouped := !s.groups.isEmpty || ps.any fun p => p.value.hasGrouping
    let withNamed (grouping : Grouping) : Names :=
      { names with
        column := fun table name =>
          hasColumn table name || (table.isNone && (named? ps name).isSome)
        grouping := grouping }
    if s.having.isSome && !isGrouped then throw .groupNeeded
    Expr.checkList (withNamed .allowed) s.having.toList
    Expr.checkList (withNamed (if isGrouped then .early else .forbidden)) s.condition.toList
    checkOrder (withNamed (if isGrouped then .allowed else .forbidden)) ps order
    checkGroups (withNamed .allowed) ps s.groups
    if s.distinct then ps.forM fun p => Expr.checkCollation [p.value]
    return ps.map Projection.name

def Source.check : Nat → NameSite → Source → Except Fault Frame
  | 0, _, _ => .ok Frame.single
  | depth + 1, site, source =>
    match source with
    | .nothing => .ok Frame.single
    | .table name label index =>
      match site.table? name with
      | some t =>
        match index.filter fun index => !t.indexes.any fun i => i.name.any (sameName index) with
        | some index => .error (.noSuchIndex index)
        | none => .ok { Frame.ofTable t (label.getD t.name) with rows := [] }
      | none =>
        match site.view? name with
        | some v =>
          match SelectQuery.check depth { site with outer := fun _ _ => false } v.query with
          | .ok names =>
            if (v.columns.all fun given => given.length == names.length) then
              .ok (Frame.ofNames (v.columns.getD names) (label.getD v.name))
            else .error (.viewWidth v.name (v.columns.getD []).length names.length)
          | .error fault => .error fault.withinView
        | none => .error (.noSuchTable name.display)
    | .query q label => do
      return Frame.ofNames (← SelectQuery.check depth site q) (label.getD "")

end

end CriteriaSearch.Sql
