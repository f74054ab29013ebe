import Toolpath.Editor.Search
import Toolpath.Editor.Buffer
import Toolpath.Editor.History
import Toolpath.Editor.Event
import Toolpath.Program.Layout
import Toolpath.Program.Check
import Toolpath.Scene.Pointer
import Toolpath.Table.Model

/-!
The editing session: a document with its history and everything derived from it. Each change of the
text is analysed at once and published. A text that the session itself has written may come back from
the editing surface once; that echo is not an edit.
-/

namespace Toolpath.Editor

open Program Scene

inductive Phase
  | idle
  | reparsing
  | applyingExternalEdit
  deriving DecidableEq, Repr

namespace Phase

def display : Phase → Text
  | idle => "idle".toList
  | reparsing => "reparsing".toList
  | applyingExternalEdit => "applying external edit".toList

def name : Phase → Text
  | idle => "Idle".toList
  | reparsing => "Reparsing".toList
  | applyingExternalEdit => "ApplyingExternalEdit".toList

end Phase

inductive EditorError
  | lineOutOfBounds (line total : Nat)
  | nothingToUndo
  | nothingToRedo
  | editRejected (phase : Phase)
  | search (e : InvalidExpression)
  | program (e : Fault)
  deriving DecidableEq, Repr

def InvalidExpression.fault (e : InvalidExpression) : Fault := .invalidExpression e.pattern e.reason

def InvalidExpression.message (e : InvalidExpression) : Text := e.fault.message

def EditorError.message : EditorError → Text
  | lineOutOfBounds line total =>
    "Line out of bounds: ".toList ++ Text.ofNat line ++ " (total: ".toList ++ Text.ofNat total ++ [')']
  | nothingToUndo => "Nothing to undo".toList
  | nothingToRedo => "Nothing to redo".toList
  | editRejected phase => "Edit rejected while ".toList ++ phase.display
  | search e => e.message
  | program e => e.message

def Buffer.lineSpan (b : Buffer) (line : Nat) : Except EditorError Span :=
  match b.lineSpan? line with
  | some span => .ok span
  | none => .error (.lineOutOfBounds line b.lineCount)

structure SessionConfig where
  transform : Transform
  radii : Radii
  historyDepth : Nat
  deriving DecidableEq, Repr

def SessionConfig.default : SessionConfig := ⟨.default, .default, History.defaultDepth⟩

structure Analysis where
  trace : Trace
  projection : Projection
  deriving DecidableEq, Repr

def Analysis.of (t : Text) (f : Transform) : Analysis :=
  let r := Program.trace t
  ⟨r, project r f⟩

structure Selection where
  node : Option Nat
  line : Nat
  span : Span
  deriving DecidableEq, Repr

structure Session where
  config : SessionConfig
  phase : Phase
  buffer : Buffer
  history : History
  analysis : Analysis
  table : Table.Model
  pointer : Pointer
  search : Search
  bus : Bus
  -- the last text the session wrote, until the surface echoes it
  pendingEcho : Option Text
  deriving DecidableEq, Repr

namespace Session

def text (s : Session) : Text := s.buffer.text

def clusters (s : Session) : List Cluster := s.analysis.projection.clusters

def publish (s : Session) (e : Event) : Session := { s with bus := (s.bus.publish e).2 }

def reanalyze (s : Session) (source : Source) : Session :=
  let resume := s.phase
  let s := { s with phase := .reparsing }
  let analysis := Analysis.of s.text s.config.transform
  let s := { s with
    analysis
    table := s.table.refresh s.text
    pointer := s.pointer.retain analysis.projection.clusters }
  let s := s.publish (.textChanged source analysis.trace.nodes.length)
  let s := match analysis.projection.aborted with
    | some a => s.publish (.relativeModeAborted a.line)
    | none => s
  { s with phase := resume }

def new (config : SessionConfig) (t : Text) : Session :=
  reanalyze ⟨config, .idle, ⟨t⟩, .new t config.historyDepth, .of [] config.transform, .empty,
    .new config.radii, .none, .new none, none⟩ .core

def setText (s : Session) (t : Text) : Session := { s with buffer := ⟨t⟩ }

def refreshSearch (s : Session) : Session :=
  if s.search.isActive then { s with search := (s.search.refresh s.text).2 } else s

def whenIdle {α : Type} (s : Session) (act : Except EditorError α × Session) : Except EditorError α × Session :=
  if s.phase = .idle then act else (.error (.editRejected s.phase), s)

def load (s : Session) (t : Text) : Except EditorError Unit × Session :=
  s.whenIdle (.ok (), reanalyze { s with
    buffer := ⟨t⟩
    history := s.history.reset t
    table := .empty
    pointer := s.pointer.collapse.2
    search := .none
    pendingEcho := none } .core)

def edit (s : Session) (t : Text) : Except EditorError Bool × Session :=
  s.whenIdle <|
    let echo := s.pendingEcho
    let s := { s with pendingEcho := none }
    if echo = some t then (.ok false, s)
    else
      match s.history.record t with
      | (false, _) => (.ok false, s)
      | (true, history) => (.ok true, (({ s with history }.setText t).reanalyze .user).refreshSearch)

def replay (s : Session) (history : History) : Except EditorError Text × Session :=
  (.ok history.current, (({ s with history }.setText history.current).reanalyze .history).refreshSearch)

def undo (s : Session) : Except EditorError Text × Session :=
  s.whenIdle <| match s.history.undo? with
    | some h => s.replay h
    | none => (.error .nothingToUndo, s)

def redo (s : Session) : Except EditorError Text × Session :=
  s.whenIdle <| match s.history.redo? with
    | some h => s.replay h
    | none => (.error .nothingToRedo, s)

def applyExternal (s : Session) (t : Text) : Except EditorError Bool × Session :=
  s.whenIdle <|
    let s := { s with phase := .applyingExternalEdit }
    let (changed, s) := match s.history.record t with
      | (false, _) => (false, s)
      | (true, history) => (true, { s with history, pendingEcho := some t }.setText t |>.reanalyze .core)
    (.ok changed, { s with phase := .idle })

def format (s : Session) : Except EditorError Bool × Session := s.applyExternal (layout s.text)

def check (s : Session) : Report × Session :=
  let r := Program.check s.text
  (r, s.publish (.checkCompleted r.diagnostics.length))

def lineSpan (s : Session) (line : Nat) : Except EditorError Span := s.buffer.lineSpan line

def selectLine (s : Session) (node : Option Nat) (line : Nat) : Option Selection × Session :=
  match s.buffer.lineSpan? line with
  | some span => (some ⟨node, line, span⟩, s.publish (.lineSelected line))
  | none => (none, s)

def selectRow (s : Session) (row : Nat) : Option Selection × Session :=
  let (line, table) := s.table.select row
  let s := { s with table }
  match line with
  | some line => s.selectLine (s.analysis.trace.nodeOfLine? line) line
  | none => (none, s)

def applyTable (s : Session) : Except EditorError Bool × Session :=
  -- An empty table never empties the document: it is taken from the text again.
  if s.table.rows.isEmpty then (.ok false, { s with table := s.table.refresh s.text })
  else
    let selected := s.table.selected
    match s.applyExternal (s.table.toText s.text) with
    | (.error e, s) => (.error e, s)
    | (.ok changed, s) =>
      (.ok changed, match selected with
        | some row => { s with table := (s.table.select row).2 }
        | none => s)

def updateCell (s : Session) (row : Nat) (f : Table.Field) (typed : Text) : Except EditorError Bool × Session :=
  s.whenIdle <| match s.table.updateCell row f typed with
    | .ok table => { s with table }.applyTable
    | .error e => (.error (.program (.rowOutOfRange e.row e.total)), s)

def addRow (s : Session) : Except EditorError Bool × Session :=
  s.whenIdle { s with table := s.table.addRow.2 }.applyTable

def deleteSelectedRow (s : Session) : Except EditorError Bool × Session :=
  s.whenIdle <| match s.table.deleteSelected with
    | (false, _) => (.ok false, s)
    | (true, table) => { s with table }.applyTable

def find (s : Session) (query : Text) (o : SearchOptions) : Except EditorError Nat × Session :=
  let (r, search) := Search.run s.text query o
  (r.mapError .search, { s with search })

def findNext (s : Session) : Option Pattern.Match × Session :=
  let (m, search) := s.search.next
  (m, { s with search })

def findPrevious (s : Session) : Option Pattern.Match × Session :=
  let (m, search) := s.search.previous
  (m, { s with search })

def applyAndRefresh (s : Session) (t : Text) : Except EditorError Bool × Session :=
  match s.applyExternal t with
  | (.ok changed, s) => (.ok changed, s.refreshSearch)
  | (.error e, s) => (.error e, s)

def replaceCurrent (s : Session) (w : Text) : Except EditorError Bool × Session :=
  match s.search.currentMatch with
  | none => (.ok false, s)
  | some m => s.applyAndRefresh (s.buffer.replace ⟨m.start, m.stop⟩ w).text

def replaceAll (s : Session) (w : Text) : Except EditorError Bool × Session :=
  match s.search.replaceEach s.text w with
  | .error e => (.error (.search e), s)
  | .ok none => (.ok false, s)
  | .ok (some t) => s.applyAndRefresh t

def afterCollapse (s : Session) (r : Bool × Pointer) : Bool × Session :=
  let s := { s with pointer := r.2 }
  (r.1, if r.1 then s.publish .clusterCollapsed else s)

def pointerMove (s : Session) (p : Point) : Bool × Session := s.afterCollapse (s.pointer.move p s.clusters)

def pointerLeave (s : Session) : Bool × Session := s.afterCollapse s.pointer.collapse

def click (s : Session) (p : Point) : Option Selection × Session :=
  let (outcome, pointer) := s.pointer.click p s.clusters
  let s := { s with pointer }
  match outcome with
  | .selectNode n =>
    match s.analysis.trace.lineOfNode? n with
    | some line => s.selectLine (some n) line
    | none => (none, s)
  | .expanded label members => (none, s.publish (.clusterExpanded label members))
  | .collapsed => (none, s.publish .clusterCollapsed)
  | .nothing => (none, s)

def subscribe (s : Session) (f : Filter) : Nat × Session :=
  let (id, bus) := s.bus.subscribe f
  (id, { s with bus })

def describe (s : Session) : Text :=
  "EditorSession \x7b state: ".toList ++ s.phase.name ++ ", lines: ".toList ++
    Text.ofNat s.buffer.lineCount ++ ", nodes: ".toList ++ Text.ofNat s.analysis.trace.nodes.length ++
    ", undo: ".toList ++ Text.ofNat s.history.past.length ++ " \x7d".toList

end Session

inductive Request
  | load (t : Text)
  | edit (t : Text)
  | undo
  | redo
  | format
  | check
  | selectRow (row : Nat)
  | updateCell (row : Nat) (f : Table.Field) (typed : Text)
  | addRow
  | deleteRow
  | applyTable
  | find (query : Text) (o : SearchOptions)
  | findNext
  | findPrevious
  | replaceCurrent (w : Text)
  | replaceAll (w : Text)
  | pointerMove (p : Point)
  | pointerLeave
  | click (p : Point)
  deriving DecidableEq, Repr

inductive Response
  | done
  | flag (b : Bool)
  | text (t : Text)
  | report (r : Report)
  | selection (s : Option Selection)
  | count (n : Nat)
  | found (m : Option Pattern.Match)
  | failed (e : EditorError)
  deriving DecidableEq, Repr

namespace Response

def ofExcept {α : Type} (f : α → Response) : Except EditorError α → Response
  | .ok a => f a
  | .error e => failed e

end Response

def Session.perform (s : Session) : Request → Response × Session
  | .load t => (s.load t).map (.ofExcept fun _ => .done) id
  | .edit t => (s.edit t).map (.ofExcept .flag) id
  | .undo => s.undo.map (.ofExcept .text) id
  | .redo => s.redo.map (.ofExcept .text) id
  | .format => s.format.map (.ofExcept .flag) id
  | .check => s.check.map .report id
  | .selectRow row => (s.selectRow row).map .selection id
  | .updateCell row f typed => (s.updateCell row f typed).map (.ofExcept .flag) id
  | .addRow => s.addRow.map (.ofExcept .flag) id
  | .deleteRow => s.deleteSelectedRow.map (.ofExcept .flag) id
  | .applyTable => s.applyTable.map (.ofExcept .flag) id
  | .find query o => (s.find query o).map (.ofExcept .count) id
  | .findNext => s.findNext.map .found id
  | .findPrevious => s.findPrevious.map .found id
  | .replaceCurrent w => (s.replaceCurrent w).map (.ofExcept .flag) id
  | .replaceAll w => (s.replaceAll w).map (.ofExcept .flag) id
  | .pointerMove p => (s.pointerMove p).map .flag id
  | .pointerLeave => s.pointerLeave.map .flag id
  | .click p => (s.click p).map .selection id

end Toolpath.Editor
