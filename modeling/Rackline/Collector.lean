import Mathlib.Logic.Function.Basic
import Rackline.Lib.Transition

/-!
# `Rackline.Collector`: the transactional collector

`ingestion/collector.py` with `ingestion/cursors.py` and `ingestion/backfill.py`, for one account of
one provider. A call polls a stream or collects an explicit window. It opens the cursor of its stream
in one transaction, asks the provider for one page after another outside any, and stores each page
with the next cursor in a transaction of its own, which is one step here. Any number of calls run
between each other, and each can crash before and after each of its transactions.

What is stored is keyed by the payload itself in place of its hash. The page that a provider answers
is a part of the action, and `Step` asks that the provider could have answered it. The mock provider
of `providers/mock.py` is one such provider.

Left out are the counts of a result, the proof candidates of a settlement with their jobs, which are
written next to a new row and read by nothing here, and the age of a window, which only the provider
reads; it may find a window too old at any time. A call that raises, also when it is rate limited,
has crashed. The high water of a cursor is never null: `open` and `advanced` set it.
-/

set_option autoImplicit false

namespace Rackline.Ingestion

/-- A time, in microseconds. -/
abbrev Time := Int

/-- `timedelta(seconds=n)`. -/
def seconds (n : Nat) : Time := 1000000 * n

/-- `STREAMS`. -/
inductive Stream
  | revenue | settlements
deriving DecidableEq

/-- The name of a cursor of the account: `stream:account`, or `tag:stream:account` for a window. -/
structure StreamName where
  tag : Option String
  stream : Stream
deriving DecidableEq

/-- `Window`. -/
structure Window where
  start : Time
  end_ : Time
deriving DecidableEq

/-- `CursorState`, without its provider and stream, by which it is stored. -/
structure CursorState (Token : Type) where
  highWater : Time
  pageToken : Option Token
  windowEnd : Option Time
  overlapSeconds : Nat
deriving DecidableEq

/-- `Cursor`, as a provider answers it. -/
structure Cursor (Token : Type) where
  token : Option Token
  hasMore : Bool
deriving DecidableEq

/-- `Page`. -/
structure Page (Payload Token : Type) where
  items : List Payload
  next : Cursor Token
deriving DecidableEq

/-- A row of `raw_source_observations` of the provider with the origin `API`. -/
structure RawRow (Payload : Type) where
  payload : Payload
  stream : Stream
deriving DecidableEq

/-- The part of `IngestionConfig` that the loop reads. -/
structure IngestionConfig where
  overlapSeconds : Nat
  maxWindowSeconds : Nat

variable {Payload Token : Type}

/-- The tables. The outbox holds the keys `raw:provider:API:payload`, as the payload. -/
structure Db (Payload Token : Type) where
  cursors : StreamName → Option (CursorState Token)
  rows : List (RawRow Payload)
  outbox : List Payload
  /-- The open exceptions of the kind `SOURCE_RETENTION_GAP`. -/
  gaps : List (StreamName × Window)

/-! ### Cursors -/

/-- `CursorStore.with_page`. -/
def CursorState.withPage (st : CursorState Token) (pageToken : Option Token) (windowEnd : Time) :
    CursorState Token :=
  { st with
    pageToken := pageToken
    windowEnd := some windowEnd }

/-- `CursorStore.advanced`. -/
def CursorState.advanced (st : CursorState Token) (windowEnd : Time) : CursorState Token :=
  { st with
    highWater := windowEnd
    pageToken := none
    windowEnd := none }

namespace Db

variable (db : Db Payload Token)

/-- `CursorStore.save`. -/
def save (name : StreamName) (st : CursorState Token) : Db Payload Token :=
  { db with cursors := Function.update db.cursors name (some st) }

/-- `CursorStore.open`. Without a cursor and a start it raises. -/
def openCursor (name : StreamName) (initialStart : Option Time) (overlapSeconds : Nat) :
    Option (CursorState Token × Db Payload Token) :=
  match db.cursors name with
  | some st => some (st, db)
  | none => do
    let start ← initialStart
    let st : CursorState Token := ⟨start, none, none, overlapSeconds⟩
    return (st, db.save name st)

/-! ### Observations -/

variable [DecidableEq Payload]

/-- `emit`. -/
def emit (key : Payload) : Db Payload Token :=
  if key ∈ db.outbox then db else { db with outbox := db.outbox ++ [key] }

/-- `store_observation`, in the transaction of its caller. -/
def storeObservation (stream : Stream) (obs : Payload) : Db Payload Token :=
  if obs ∈ db.rows.map (·.payload) then db
  else emit { db with rows := db.rows ++ [⟨obs, stream⟩] } obs

/-- `_store_page`. -/
def storePage (stream : Stream) (items : List Payload) : Db Payload Token :=
  items.foldl (fun db obs => db.storeObservation stream obs) db

end Db

/-! ### Calls -/

/-- The arguments of `poll` and of `collect_window`. -/
inductive Request
  | poll (stream : Stream) (initialStart until_ : Option Time)
  | collectWindow (stream : Stream) (start end_ : Time) (tag : String)

/-- `refetch_corrections`. -/
def refetchCorrections (stream : Stream) (around : Time) (radiusSeconds : Nat) (tagSuffix : String) :
    Request :=
  .collectWindow stream (around - seconds radiusSeconds) (around + seconds radiusSeconds)
    ("refetch:" ++ tagSuffix)

namespace Request

/-- The name of the cursor. -/
def name : Request → StreamName
  | poll stream _ _ => ⟨none, stream⟩
  | collectWindow stream _ _ tag => ⟨some tag, stream⟩

/-- What the cursor is opened with: the start, if there is none yet, and the overlap. -/
def opening (cfg : IngestionConfig) : Request → Option Time × Nat
  | poll _ initialStart _ => (initialStart, cfg.overlapSeconds)
  | collectWindow _ start _ _ => (some start, 0)

/-- `w_start`. -/
def windowStart (st : CursorState Token) : Request → Time
  | poll .. => st.highWater - seconds st.overlapSeconds
  | collectWindow _ start _ _ => start - seconds st.overlapSeconds

/-- `w_end` of a window that is not resumed. -/
def windowEnd (cfg : IngestionConfig) (st : CursorState Token) (now : Time) : Request → Time
  | r@(poll _ _ until_) =>
    min (min (until_.getD now) now) (r.windowStart st + seconds cfg.maxWindowSeconds)
  | collectWindow _ _ end_ _ => end_

/-- `w_end <= st.high_water and not backfill`. -/
def nothingNew (cfg : IngestionConfig) (st : CursorState Token) (now : Time) : Request → Prop
  | r@(poll ..) => r.windowEnd cfg st now ≤ st.highWater
  | collectWindow .. => False

instance (cfg : IngestionConfig) (st : CursorState Token) (now : Time) (r : Request) :
    Decidable (r.nothingNew cfg st now) :=
  match r with
  | poll .. => inferInstanceAs (Decidable (_ ≤ _))
  | collectWindow .. => inferInstanceAs (Decidable False)

end Request

/-- How far a call has come, with what it keeps in its variables. -/
inductive Progress (Payload Token : Type)
  /-- Before a request to the provider. -/
  | fetching (st : CursorState Token) (window : Window) (token : Option Token)
  /-- Before the transaction of the page. -/
  | committing (st : CursorState Token) (window : Window) (token : Option Token)
      (page : Page Payload Token)
  /-- After its last transaction: that of the window, or none for lack of anything new. -/
  | returning (window : Option Window)
  | returned (window : Option Window)
  /-- Returned with an exception for a gap. -/
  | gap
  | crashed

/-- The start of `_collect`, up to the first request. A window that ends before it starts is
refused. -/
def plan (cfg : IngestionConfig) (r : Request) (st : CursorState Token) (now : Time) :
    Progress Payload Token :=
  match st.pageToken, st.windowEnd with
  | some token, some windowEnd =>
    let window := ⟨r.windowStart st, windowEnd⟩
    if window.end_ < window.start then .crashed else .fetching st window (some token)
  | _, _ =>
    let window := ⟨r.windowStart st, r.windowEnd cfg st now⟩
    if r.nothingNew cfg st now then .returning none
    else if window.end_ < window.start then .crashed
    else .fetching st window none

/-! ### The system -/

/-- A page that was committed. -/
structure Commit (Payload Token : Type) where
  name : StreamName
  window : Window
  token : Option Token
  page : Page Payload Token

/-- The tables and the calls. The last two fields only record: the pages that were committed, the
latest first, and the start with which each cursor was created. -/
structure State (Payload Token : Type) where
  db : Db Payload Token
  calls : Nat → Option (Request × Progress Payload Token)
  history : List (Commit Payload Token)
  initialStart : StreamName → Option Time

/-- Before the first call. -/
def State.initial : State Payload Token where
  db := { cursors := fun _ => none, rows := [], outbox := [], gaps := [] }
  calls := fun _ => none
  history := []
  initialStart := fun _ => none

inductive Action (Payload Token : Type)
  /-- A call, up to its first request. -/
  | start (k : Nat) (cfg : IngestionConfig) (request : Request) (now : Time)
  /-- The provider answers. -/
  | fetch (k : Nat) (page : Page Payload Token)
  /-- The provider raises `ExpiredData`. -/
  | expire (k : Nat)
  | commit (k : Nat)
  | finish (k : Nat)
  | crash (k : Nat)

namespace State

variable (s : State Payload Token)

/-- The call goes on. -/
def goOn (k : Nat) (r : Request) (progress : Progress Payload Token) : State Payload Token :=
  { s with calls := Function.update s.calls k (some (r, progress)) }

/-- The start of a call. -/
def start (k : Nat) (cfg : IngestionConfig) (r : Request) (now : Time) : State Payload Token :=
  let (initialStart, overlapSeconds) := r.opening cfg
  match s.db.openCursor r.name initialStart overlapSeconds with
  | none => s.goOn k r .crashed
  | some (st, db) =>
    { s with
      db := db
      initialStart :=
        if s.db.cursors r.name = none then Function.update s.initialStart r.name initialStart
        else s.initialStart }.goOn k r (plan cfg r st now)

/-- The cursor after a page. -/
def nextState (st : CursorState Token) (window : Window) (page : Page Payload Token) :
    CursorState Token :=
  if page.next.hasMore then st.withPage page.next.token window.end_ else st.advanced window.end_

variable [DecidableEq Payload] [DecidableEq Token]

/-- The transaction of a page. If the cursor has changed, the call raises. -/
def commit (k : Nat) (r : Request) (st : CursorState Token) (window : Window)
    (token : Option Token) (page : Page Payload Token) : State Payload Token :=
  if s.db.cursors r.name = some st then
    let next := nextState st window page
    { s with
      db := (s.db.storePage r.name.stream page.items).save r.name next
      history := ⟨r.name, window, token, page⟩ :: s.history }.goOn k r
        (if page.next.hasMore then .fetching next window page.next.token
        else .returning (some window))
  else s.goOn k r .crashed

/-- One step, if it can happen. -/
def step : Action Payload Token → Option (State Payload Token)
  | .start k cfg r now => if (s.calls k).isNone then some (s.start k cfg r now) else none
  | .fetch k page =>
    match s.calls k with
    | some (r, .fetching st window token) => some (s.goOn k r (.committing st window token page))
    | _ => none
  | .expire k =>
    match s.calls k with
    | some (r, .fetching _ window _) =>
      some ({ s with db := { s.db with gaps := s.db.gaps ++ [(r.name, window)] } }.goOn k r .gap)
    | _ => none
  | .commit k =>
    match s.calls k with
    | some (r, .committing st window token page) => some (s.commit k r st window token page)
    | _ => none
  | .finish k =>
    match s.calls k with
    | some (r, .returning window) => some (s.goOn k r (.returned window))
    | _ => none
  | .crash k =>
    match s.calls k with
    | some (r, .fetching ..) | some (r, .committing ..) | some (r, .returning _) =>
      some (s.goOn k r .crashed)
    | _ => none

end State

/-! ### The provider -/

/-- What is assumed of the provider: the items that it lists for a window of a stream, the pages that
it may answer, and of which item a payload is. -/
structure Provider (Item Payload Token : Type) where
  asOf : Item → Time
  lists : Stream → Window → Item → Prop
  serves : Stream → Window → Option Token → Page Payload Token → Prop
  item : Payload → Item

variable {Item : Type}

namespace Provider

variable (P : Provider Item Payload Token)

/-- The pages from a token to the last page. -/
inductive Follows (stream : Stream) (window : Window) :
    Option Token → List (Page Payload Token) → Prop
  | last {token : Option Token} {page : Page Payload Token} :
      P.serves stream window token page → page.next.hasMore = false →
      Follows stream window token [page]
  | next {token : Option Token} {page : Page Payload Token} {pages : List (Page Payload Token)} :
      P.serves stream window token page → page.next.hasMore = true →
      Follows stream window page.next.token pages → Follows stream window token (page :: pages)

/-- One of the pages has the item. -/
def Yields (pages : List (Page Payload Token)) (i : Item) : Prop :=
  ∃ page ∈ pages, ∃ obs ∈ page.items, P.item obs = i

/-- Consistent paging: a window lists the items by their time, and the pages from its first to its
last have all of them. -/
structure Consistent : Prop where
  inside : ∀ {stream window i}, P.lists stream window i → window.start ≤ P.asOf i
  between : ∀ {stream window i}, P.lists stream window i →
    ∀ {window' : Window}, window'.start ≤ P.asOf i → P.asOf i < window'.end_ → P.lists stream window' i
  complete : ∀ {stream window pages}, P.Follows stream window none pages →
    ∀ {i}, P.lists stream window i → P.Yields pages i

/-- The page of a fetch is one that the provider may answer. -/
def Served (s : State Payload Token) : Action Payload Token → Prop
  | .fetch k page =>
    match s.calls k with
    | some (r, .fetching _ window token) => P.serves r.name.stream window token page
    | _ => False
  | _ => True

variable [DecidableEq Payload] [DecidableEq Token]

/-- One step of the collectors against the provider. -/
def Step (s : State Payload Token) (a : Action Payload Token) (s' : State Payload Token) : Prop :=
  P.Served s a ∧ s.step a = some s'

end Provider

/-! ### The mock provider -/

/-- The rows of a window. -/
def mockRows (rows : List Time) (window : Window) : List Time :=
  rows.filter fun t => window.start ≤ t ∧ t ≤ window.end_

/-- `MockProviderAdapter._page`. The token is an offset; one beyond the end is refused. -/
def mockPage (pageSize : Nat) (rows : List Time) (token : Option Nat) : Option (Page Time Nat) :=
  let start := token.getD 0
  if start > rows.length then none
  else
    let end_ := min (start + pageSize) rows.length
    some ⟨(rows.take end_).drop start, ⟨some end_, end_ < rows.length⟩⟩

/-- `MockProviderAdapter`, for rows that are their own times. -/
def mockProvider (pageSize : Nat) (rows : Stream → List Time) : Provider Time Time Nat where
  asOf := id
  lists := fun stream window t => t ∈ mockRows (rows stream) window
  serves := fun stream window token page =>
    mockPage pageSize (mockRows (rows stream) window) token = some page
  item := id

/-- The actions one after the other, with the mock provider. -/
def mockRun (pageSize : Nat) (rows : Stream → List Time) (s : State Time Nat) :
    List (Action Time Nat) → Option (State Time Nat)
  | [] => some s
  | a :: as =>
    match a with
    | .fetch k page =>
      match s.calls k with
      | some (r, .fetching _ window token) =>
        if mockPage pageSize (mockRows (rows r.name.stream) window) token = some page then
          (s.step (.fetch k page)).bind fun s => mockRun pageSize rows s as
        else none
      | _ => none
    | a => (s.step a).bind fun s => mockRun pageSize rows s as

end Rackline.Ingestion
