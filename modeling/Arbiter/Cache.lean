import Arbiter.Format.Request
import Arbiter.Response

/-! The decision cache: a bounded map from requests to responses that forgets the entry unused
longest.

Requests with the same attributes share an entry, whatever their ids, but only while the store is of
the same generation. Times are readings of one clock, in milliseconds. -/

namespace Arbiter

/-- What a response is filed under: the attributes of the request as JSON, and the generation of the
store. A digest of the two is taken to tell keys apart as well as they themselves do. -/
structure CacheKey where
  attributes : Json
  generation : Nat
  deriving DecidableEq

structure CacheEntry where
  key : CacheKey
  response : Response
  expiresAt : Nat
  deriving DecidableEq

structure Cache where
  capacity : Nat
  /-- How long an entry lives. -/
  ttl : Nat
  /-- The entry used last comes first. -/
  entries : List CacheEntry := []
  /-- This and the misses are counted without end. A 64-bit word would wrap after 2^64 lookups. -/
  hits : Nat := 0
  misses : Nat := 0
  deriving DecidableEq

/-- The share of hits among lookups, in percent. -/
def hitRate (hits misses : Nat) : Binary64 :=
  if hits + misses = 0 then .zero
  else ((Binary64.ofNat hits).div (.ofNat (hits + misses))).mul (.ofNat 100)

namespace Request

def cacheKey (r : Request) (generation : Nat) : CacheKey :=
  ⟨.array (r.attributes.map (·.toJson)), generation⟩

end Request

namespace CacheEntry

def isFor (r : Request) (generation : Nat) (e : CacheEntry) : Bool := e.key = r.cacheKey generation

end CacheEntry

namespace Cache

/-- An empty cache, which has room for one entry at least. -/
def ofCapacity (capacity ttl : Nat) : Cache := { capacity := max capacity 1, ttl }

/-- The entries of other requests. -/
def others (c : Cache) (r : Request) (generation : Nat) : List CacheEntry :=
  c.entries.filter fun e => !e.isFor r generation

/-- Looks a response up and gives it the id of this request. An entry found becomes the one used last,
or is removed if it has expired. -/
def get (c : Cache) (now : Nat) (r : Request) (generation : Nat) : Option Response × Cache :=
  match c.entries.find? (·.isFor r generation) with
  | none => (none, { c with misses := c.misses + 1 })
  | some e =>
    if now < e.expiresAt then
      (some { e.response with requestId := r.id },
        { c with entries := e :: c.others r generation, hits := c.hits + 1 })
    else (none, { c with entries := c.others r generation, misses := c.misses + 1 })

/-- Keeps a response, as the entry used last. Every `now + ttl` is a time here. A clock whose times end
somewhere has none for a time to live that leads beyond, and fails. -/
def put (c : Cache) (now : Nat) (r : Request) (generation : Nat) (response : Response) : Cache :=
  let e : CacheEntry := ⟨r.cacheKey generation, response, now + c.ttl⟩
  { c with entries := (e :: c.others r generation).take c.capacity }

/-- Forgets all entries, but keeps count. -/
def clear (c : Cache) : Cache := { c with entries := [] }

def size (c : Cache) : Nat := c.entries.length

def hitRate (c : Cache) : Binary64 := Arbiter.hitRate c.hits c.misses

end Cache

end Arbiter
