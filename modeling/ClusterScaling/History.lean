import ClusterScaling.Decision

/-!
# What is remembered of past decisions

A cooldown and the limits on steps look back at the moves of a tier. The
history of a tier keeps as many of the latest moves as it has room for,
the oldest first, and besides them the time of the latest change ever
remembered: a burst of decisions to hold may push a change out of the
room, but must not end its cooldown.
-/

namespace ClusterScaling

/-- The remembered moves of a tier. -/
structure History where
  /-- How many moves are kept. -/
  capacity : Nat
  /-- The moves that are kept, the oldest first. -/
  moves : List Move
  /-- The time of the latest change that was ever remembered. -/
  lastChange : Option UInt64
  deriving DecidableEq

namespace History

/-- A history without moves. It has room for at least one. -/
def empty (capacity : UInt64) : History := ⟨max capacity.toNat 1, [], none⟩

/-- The later of a time and a time that may not exist. -/
def later (t : Option UInt64) (u : UInt64) : UInt64 :=
  match t with
  | some t => if t < u then u else t
  | none => u

/-- Remembers a move, and forgets the oldest one if there is no room. -/
def push (h : History) (m : Move) : History :=
  { h with
    lastChange := if m.isChange then some (later h.lastChange m.timestamp) else h.lastChange
    moves := (if h.moves.length = h.capacity then h.moves.drop 1 else h.moves) ++ [m] }

/-- The first moment of a window that ends now. -/
def since (now : UInt64) (window : Duration) : Nat := now.toNat - window.clockMillis.toNat

/-- The moves in a window that ends now. -/
def within (h : History) (now : UInt64) (window : Duration) : List Move :=
  h.moves.filter fun m => since now window ≤ m.timestamp.toNat

/-- Forgets moves that are too old, up to the first that is not. -/
def prune (h : History) (now : UInt64) (age : Duration) : History :=
  { h with moves := h.moves.dropWhile fun m => m.timestamp.toNat < since now age }

/-- Remembers several moves, one after the other. -/
def pushAll (h : History) (ms : List Move) : History := ms.foldl push h

@[simp]
theorem capacity_push (h : History) (m : Move) : (h.push m).capacity = h.capacity := rfl

@[simp]
theorem capacity_prune (h : History) (now : UInt64) (age : Duration) :
    (h.prune now age).capacity = h.capacity := rfl

/-- **Forgetting old moves does not touch the time of the latest change.** -/
@[simp]
theorem lastChange_prune (h : History) (now : UInt64) (age : Duration) :
    (h.prune now age).lastChange = h.lastChange := rfl

end History

/-- The histories of both tiers of a cluster. -/
abbrev ClusterHistory := PerTier History

/-- The histories of a cluster that nothing is known about. -/
def ClusterHistory.empty (capacity : UInt64) : ClusterHistory := PerTier.both (.empty capacity)

/-- The histories of all clusters. A cluster is found in the index, which says in which of the
books its histories are written. Whoever has found a book keeps to it, whatever becomes of the
index. -/
structure HistoryStore where
  /-- How many moves are kept for a tier. -/
  capacity : UInt64
  /-- The book of each cluster that is known, by key. -/
  index : Table Nat
  /-- The histories in each book, in the order in which the books were begun. -/
  books : List ClusterHistory
  /-- Every book in the index exists. -/
  exists_book : ∀ key book, index.get? key = some book → book < books.length
  /-- No two clusters share a book. -/
  unshared : ∀ key other book,
    index.get? key = some book → index.get? other = some book → key = other

namespace HistoryStore

/-- A store that knows no cluster. -/
def empty (capacity : UInt64) : HistoryStore where
  capacity := capacity
  index := .empty
  books := []
  exists_book := by simp
  unshared := by simp

/-- The book of a cluster, if it is known. -/
def book? (s : HistoryStore) (key : String) : Option Nat := s.index.get? key

/-- The histories in a book. -/
def read (s : HistoryStore) (book : Nat) : ClusterHistory :=
  s.books[book]?.getD (.empty s.capacity)

/-- The store with other histories in a book. -/
def write (s : HistoryStore) (book : Nat) (h : ClusterHistory) : HistoryStore where
  capacity := s.capacity
  index := s.index
  books := s.books.set book h
  exists_book := by simpa using s.exists_book
  unshared := s.unshared

/-- The store with a new book for a cluster. -/
def begin (s : HistoryStore) (key : String) : HistoryStore where
  capacity := s.capacity
  index := s.index.insert key s.books.length
  books := s.books ++ [.empty s.capacity]
  exists_book := by
    intro other book hb
    rw [Table.get?_insert] at hb
    split at hb
    · simp_all
    · have := s.exists_book other book hb
      simp only [List.length_append, List.length_singleton]
      omega
  unshared := by
    intro one other book ho hb
    rw [Table.get?_insert] at ho hb
    split at ho <;> split at hb
    · simp_all
    · have := s.exists_book other book hb
      simp_all
    · have := s.exists_book one book ho
      simp_all
    · exact s.unshared one other book ho hb

/-- The store in which a cluster is known, and its book. The book is begun only if there is none,
so of several that have looked for it in vain one begins it and all get the same. -/
def provide (s : HistoryStore) (key : String) : HistoryStore × Nat :=
  match s.book? key with
  | some book => (s, book)
  | none => (s.begin key, s.books.length)

/-- The histories of a cluster, if it is known. -/
def get? (s : HistoryStore) (key : String) : Option ClusterHistory := (s.book? key).map s.read

/-- The histories of a cluster as a cycle starts from them. -/
def histories (s : HistoryStore) (key : String) : ClusterHistory :=
  (s.get? key).getD (.empty s.capacity)

/-- The store in which a cluster is known. -/
def touch (s : HistoryStore) (key : String) : HistoryStore := (s.provide key).1

/-- The store in which a cluster has the given histories. -/
def put (s : HistoryStore) (key : String) (h : ClusterHistory) : HistoryStore :=
  (s.touch key).write (s.provide key).2 h

/-- The store that has forgotten a cluster. Its book is not begun again. -/
def remove (s : HistoryStore) (key : String) : HistoryStore where
  capacity := s.capacity
  index := s.index.erase key
  books := s.books
  exists_book := by
    intro other book hb
    rw [Table.get?_erase] at hb
    split at hb
    · simp at hb
    · exact s.exists_book other book hb
  unshared := by
    intro one other book ho hb
    rw [Table.get?_erase] at ho hb
    split at ho <;> split at hb
    · simp at ho
    · simp at ho
    · simp at hb
    · exact s.unshared one other book ho hb

@[simp]
theorem capacity_write (s : HistoryStore) (book : Nat) (h : ClusterHistory) :
    (s.write book h).capacity = s.capacity := rfl

@[simp]
theorem book?_write (s : HistoryStore) (book : Nat) (h : ClusterHistory) (key : String) :
    (s.write book h).book? key = s.book? key := rfl

/-- The histories of a known cluster are those in its book. -/
theorem histories_eq_read {s : HistoryStore} {key : String} {book : Nat}
    (h : s.book? key = some book) : s.histories key = s.read book := by
  rw [histories, get?, h]
  rfl

/-- **A book reads as it was last written**, and writing it changes no other book. -/
theorem read_write {s : HistoryStore} {key : String} {book : Nat} (hb : s.book? key = some book)
    (h : ClusterHistory) (other : Nat) :
    (s.write book h).read other = if book = other then h else s.read other := by
  have hlt : book < s.books.length := s.exists_book key book hb
  unfold read write
  dsimp only
  rw [List.getElem?_set, if_pos hlt]
  split
  · rfl
  · rfl

/-- **Writing the book of a cluster changes the histories of that cluster alone.** -/
theorem histories_write {s : HistoryStore} {key : String} {book : Nat}
    (hb : s.book? key = some book) (h : ClusterHistory) (other : String) :
    (s.write book h).histories other = if key = other then h else s.histories other := by
  unfold histories get?
  rw [book?_write]
  cases ho : s.book? other with
  | none =>
    have hne : key ≠ other := by
      rintro rfl
      simp [hb] at ho
    simp [hne]
  | some n =>
    have hiff : book = n ↔ key = other :=
      ⟨fun e => s.unshared key other n (e ▸ hb) ho, fun e => by
        subst e
        exact Option.some.inj (hb.symm.trans ho)⟩
    simp only [Option.map_some, Option.getD_some, read_write hb, hiff]

/-- A known cluster needs no new book. -/
theorem provide_of_book? {s : HistoryStore} {key : String} {book : Nat}
    (hb : s.book? key = some book) : s.provide key = (s, book) := by
  unfold provide
  rw [hb]

@[simp]
theorem capacity_provide (s : HistoryStore) (key : String) :
    (s.provide key).1.capacity = s.capacity := by
  unfold provide
  split <;> rfl

/-- **A provided cluster is known by its book**, and no other cluster is affected. -/
theorem book?_provide (s : HistoryStore) (key other : String) :
    (s.provide key).1.book? other
      = if key = other then some (s.provide key).2 else s.book? other := by
  unfold provide
  split
  · next book hb =>
    split
    · next he => subst he; exact hb
    · rfl
  · exact Table.get?_insert s.index key other s.books.length

/-- Providing a book changes what is written in no other. -/
theorem read_provide {s : HistoryStore} {other : String} {book : Nat}
    (hb : s.book? other = some book) (key : String) :
    (s.provide key).1.read book = s.read book := by
  have hlt : book < s.books.length := s.exists_book other book hb
  unfold provide
  split
  · rfl
  · unfold read begin
    dsimp only
    rw [List.getElem?_append_left hlt]

/-- **A cluster that becomes known starts from the histories that it had unknown.** -/
@[simp]
theorem histories_provide (s : HistoryStore) (key other : String) :
    (s.provide key).1.histories other = s.histories other := by
  cases ho : s.book? other with
  | some book =>
    have hb : (s.provide key).1.book? other = some book := by
      rw [book?_provide]
      split
      · next he =>
        subst he
        unfold provide
        split
        · next hs => exact hs.symm.trans ho
        · next hs => simp [hs] at ho
      · exact ho
    rw [histories_eq_read hb, histories_eq_read ho, read_provide ho]
  | none =>
    unfold provide
    split
    · rfl
    · next hs =>
      unfold histories get? book? begin read
      dsimp only
      rw [Table.get?_insert]
      split
      · next he =>
        subst he
        rw [show s.index.get? key = none from ho]
        simp
      · rw [show s.index.get? other = none from ho]
        rfl

theorem get?_put (s : HistoryStore) (key other : String) (h : ClusterHistory) :
    (s.put key h).get? other = if key = other then some h else s.get? other := by
  have hk : (s.provide key).1.book? key = some (s.provide key).2 := by
    rw [book?_provide, if_pos rfl]
  have hw := histories_write hk h other
  unfold put touch get?
  rw [book?_write, book?_provide]
  split
  · next he =>
    subst he
    rw [Option.map_some, read_write hk, if_pos rfl]
  · next hne =>
    cases ho : s.book? other with
    | none => rfl
    | some n =>
      have hn : (s.provide key).2 ≠ n := by
        rintro rfl
        refine hne ((s.provide key).1.unshared key other _ hk ?_)
        exact (book?_provide s key other).trans ((if_neg hne).trans ho)
      rw [Option.map_some, Option.map_some, read_write hk, if_neg hn, read_provide ho]

end HistoryStore

end ClusterScaling
