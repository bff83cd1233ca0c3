import ObjectGateway.Failure
import ObjectGateway.Flow
import ObjectGateway.Metrics
import ObjectGateway.Store.Object
import ObjectGateway.Text.Split

/-!
# Listings page by page

A provider lists keys in pages.  A walk asks for one page after the other, each time with the token
of the page before, until a page has no token, the budget of entries is spent, or a page with a
token brings nothing.  The folders of all pages come before the files of all pages.  A listing is
counted once, when it has ended.
-/

namespace ObjectGateway

/-- An object on a page. -/
structure ListedObject where
  key : String
  etag : String
  size : Int
  lastModified : Option Instant
  deriving Repr, DecidableEq

/-- A page of a listing. -/
structure ListPage where
  /-- The common starts of keys up to the next slash. -/
  folders : List String
  objects : List ListedObject
  /-- How many keys the provider counted. -/
  keyCount : Int
  /-- The token of the next page. -/
  next : Option String
  deriving Repr, DecidableEq

namespace ListPage

/-- A page with nothing on it. -/
def empty : ListPage := ⟨[], [], 0, none⟩

/-- How many entries a page has. -/
def entries (p : ListPage) : Nat := p.folders.length + p.objects.length

end ListPage

/-- A request for a page. -/
structure PageRequest where
  keyPrefix : String
  token : Option String
  maxKeys : Int
  deriving Repr, DecidableEq

/-- A key without the listed start; other keys stay whole. -/
def entryName (keyPrefix key : String) : String :=
  match Text.stripStart? keyPrefix.toList key.toList with
  | some rest => String.ofList rest
  | none => key

/-- The entry of a common start of keys. -/
def Descriptor.ofFolder (keyPrefix key : String) : Descriptor :=
  ⟨.folder, key, entryName keyPrefix key, "", 0, none⟩

/-- The entry of an object; the object that is the listed start itself has none. -/
def Descriptor.ofObject? (keyPrefix : String) (o : ListedObject) : Option Descriptor :=
  let name := entryName keyPrefix o.key
  if name.isEmpty then none else some ⟨.file, o.key, name, o.etag, o.size, o.lastModified⟩

/-- A listing that waits for a page. -/
structure Walk where
  keyPrefix : String
  /-- The most keys that are asked for at once. -/
  pageSize : Int
  /-- How many entries are still wanted. -/
  remaining : Int
  token : Option String
  folders : List Descriptor
  files : List Descriptor
  deriving Repr, DecidableEq

/-- Where a listing is. -/
inductive WalkState
  | waiting (w : Walk)
  | finished (result : Answer (List Descriptor))

namespace Walk

/-- The most keys that a provider puts on a page. -/
def greatestPage : Int := 1000

/-- A listing of at most `cap` entries. -/
def start (keyPrefix : String) (cap : Int) : Walk :=
  ⟨keyPrefix, max 1 (min cap greatestPage), cap, none, [], []⟩

/-- The page that a listing waits for. -/
def request (w : Walk) : PageRequest :=
  ⟨w.keyPrefix, w.token, min w.pageSize w.remaining⟩

/-- Take over the entries of a page. -/
def take (w : Walk) (p : ListPage) : Walk :=
  { w with
    remaining := w.remaining - p.keyCount
    folders := w.folders ++ p.folders.map (Descriptor.ofFolder w.keyPrefix)
    files := w.files ++ p.objects.filterMap (Descriptor.ofObject? w.keyPrefix) }

/-- The entries so far, folders first. -/
def entries (w : Walk) : List Descriptor := w.folders ++ w.files

/-- Go on with a page, or with the failure to get it. -/
def receive (w : Walk) : Answer ListPage → WalkState
  | .error f => .finished (.error f)
  | .ok p =>
    let w := w.take p
    match p.next with
    | none => .finished (.ok w.entries)
    | some token =>
      if 0 < w.remaining ∧ ¬ (p.keyCount ≤ 0 ∧ p.entries = 0) then
        .waiting { w with token := some token }
      else .finished (.ok w.entries)

/-- Go on with pages as long as the listing waits for one; yields the requests in order, and where
the listing is in the end. -/
def run (w : Walk) : List (Answer ListPage) → List PageRequest × WalkState
  | [] => ([], .waiting w)
  | page :: rest =>
    match w.receive page with
    | .waiting next =>
      let (requests, state) := next.run rest
      (w.request :: requests, state)
    | .finished result => ([w.request], .finished result)

end Walk

/-- What a listing asks for. -/
inductive ListingEffect
  /-- Get a page. -/
  | fetch (request : PageRequest)
  | count (c : Count)
  deriving Repr, DecidableEq

/-- What a listing gets back. -/
def ListingEffect.Reply : ListingEffect → Type
  | fetch _ => Answer ListPage
  | count _ => Unit

/-- The interface of a source of pages beside the counters. -/
def ListingInterface : Interface := ⟨ListingEffect, ListingEffect.Reply⟩

/-- A flow that asks for pages. -/
abbrev ListingFlow := Flow ListingInterface

/-- Go on with a listing that waits for a page, and yield the result of one that does not. -/
def WalkState.proceed (goOn : Walk → ListingFlow (Option (Answer (List Descriptor)))) :
    WalkState → ListingFlow (Option (Answer (List Descriptor)))
  | .waiting next => goOn next
  | .finished result => return some result

/-- Follow a listing through at most so many pages; none when it would go on after them. -/
def Walk.follow : Nat → Walk → ListingFlow (Option (Answer (List Descriptor)))
  | 0, _ => return none
  | n + 1, w => do
    let page ← .ask (I := ListingInterface) (.fetch w.request)
    (w.receive page).proceed (follow n)

/-- List by at most so many pages, and count the listing when it has ended, whatever came of it. -/
def countedListing (target bucket : String) (most : Nat) (keyPrefix : String) (cap : Int) :
    ListingFlow (Option (Answer (List Descriptor))) := do
  let result ← (Walk.start keyPrefix cap).follow most
  if result.isSome then
    .ask (I := ListingInterface) (.count (.storeCall target bucket "list-objects"))
  return result

end ObjectGateway
