import YunXi.WebHost.EventNumbers

/-!
# Paging through a history

A client reads a history from its newest page back: it asks for the events before the first one it
has until none are older.  Every page is cut where a turn starts and ends where the page before it
begins, so the client reads every event once.
-/

namespace YunXi
namespace Web

open Protocol (Value ChatMessage)

/-- The type of the event at a place of a history. -/
def typeAt (place : Nat) : String :=
  match place % 6 with
  | 0 => "turn/start"
  | 1 => "user/message"
  | 2 => "step/start"
  | 3 => "assistant/message"
  | 4 => "step/end"
  | _ => "turn/end"

theorem typeAt_eq_turnStart {place : Nat} : typeAt place = "turn/start" ↔ place % 6 = 0 := by
  unfold typeAt
  have small := Nat.mod_lt place (show 0 < 6 by decide)
  generalize place % 6 = inTurn at small ⊢
  match inTurn, small with
  | 0, _ => exact iff_of_true rfl rfl
  | 1, _ | 2, _ | 3, _ | 4, _ | 5, _ => exact iff_of_false (by decide) (by decide)

variable (time : Nat)

theorem eventType_messageEvents (index : Nat) (message : ChatMessage) {place : Nat}
    (inside : place < 3) :
    ((messageEvents time index message)[place]?).bind eventType =
      some (typeAt (3 * index + place)) := by
  have parity : (3 * index + place) % 6 = if index % 2 = 0 then place else 3 + place := by
    split <;> omega
  unfold messageEvents typeAt
  rw [parity]
  split
  all_goals
    match place, inside with
    | 0, _ | 1, _ | 2, _ => rfl

theorem eventType_eventsFrom (index : Nat) (messages : List ChatMessage) {place : Nat}
    (inside : place < 3 * messages.length) :
    ((eventsFrom time index messages)[place]?).bind eventType =
      some (typeAt (3 * index + place)) := by
  induction messages generalizing index place with
  | nil => exact absurd inside (Nat.not_lt_zero place)
  | cons message rest ih =>
      have size := length_messageEvents time index message
      rw [List.length_cons] at inside
      rw [eventsFrom]
      by_cases here : place < 3
      · rw [List.getElem?_append_left (by omega)]
        exact eventType_messageEvents time index message here
      · rw [List.getElem?_append_right (by omega), size,
          ih (index + 1) (by omega)]
        congr 2
        omega

variable (messages : List ChatMessage)

theorem length_sessionEventValues :
    (sessionEventValues time messages).length = 3 * messages.length := by
  rw [sessionEventValues_eq, length_eventsFrom]

/-- A turn starts at every sixth event. -/
theorem eventType_turnStart {place : Nat}
    (inside : place < 3 * messages.length) :
    ((sessionEventValues time messages)[place]?).bind eventType = some "turn/start" ↔
      place % 6 = 0 := by
  rw [sessionEventValues_eq, eventType_eventsFrom time 0 messages inside, Option.some_inj,
    Nat.mul_zero, Nat.zero_add]
  exact typeAt_eq_turnStart

theorem backByMessages_le (events : List Value) (maximum start seen : Nat) :
    backByMessages events maximum start seen ≤ start := by
  induction start generalizing seen with
  | zero => exact Nat.le_refl 0
  | succ start ih =>
      unfold backByMessages
      split
      · exact (ih _).trans (Nat.le_succ start)
      · exact Nat.le_refl _

/-- A page that may hold a message goes back. -/
theorem backByMessages_lt (events : List Value) {maximum stop : Nat} (holds : 0 < maximum)
    (remain : 0 < stop) : backByMessages events maximum stop 0 < stop := by
  obtain ⟨start, rfl⟩ := Nat.exists_eq_succ_of_ne_zero remain.ne'
  unfold backByMessages
  rw [if_pos holds]
  exact Nat.lt_succ_of_le (backByMessages_le _ _ _ _)

/-- The second loop stops at the start of the turn. -/
theorem backToTurnStart_eq {start : Nat}
    (inside : start < 3 * messages.length) :
    backToTurnStart (sessionEventValues time messages) start = 6 * (start / 6) := by
  induction start with
  | zero => rfl
  | succ start ih =>
      unfold backToTurnStart
      have turnStart := eventType_turnStart time messages inside
      split
      case isTrue starts =>
        have whole := turnStart.mp starts
        omega
      case isFalse goesOn =>
        have within : (start + 1) % 6 ≠ 0 := fun whole => goesOn (turnStart.mpr whole)
        rw [ih (by omega)]
        omega

/-- An event as a page holds it. -/
def pageEvent (event : Value) : Value := .object [("event", event)]

/-- What is read is the page of the events from one place to another, where a turn starts. -/
structure IsPage (page : List Value × Bool)
    (start stop : Nat) : Prop where
  inside : stop ≤ (sessionEventValues time messages).length
  ordered : start ≤ stop
  events : page.1 =
    (((sessionEventValues time messages).drop start).take (stop - start)).map pageEvent
  hasMore : page.2 = true ↔ 0 < start
  nonempty : 0 < stop → start < stop
  turnStart : start < stop →
    ((sessionEventValues time messages)[start]?).bind eventType = some "turn/start"

theorem historyPage_isPage (beforeSeq : Option Nat)
    {maximum : Nat} (holds : 0 < maximum) :
    ∃ start, IsPage time messages (historyPage time messages beforeSeq maximum) start
      (min (beforeSeq.getD (3 * messages.length)) (3 * messages.length)) := by
  have size := length_sessionEventValues time messages
  unfold historyPage
  dsimp only
  rw [size]
  generalize isStop : min (beforeSeq.getD (3 * messages.length)) (3 * messages.length) = stop
  have inside : stop ≤ 3 * messages.length := isStop ▸ Nat.min_le_right _ _
  rcases Nat.eq_zero_or_pos stop with rfl | remain
  · exact ⟨0,
      { inside := Nat.zero_le _
        ordered := Nat.le_refl 0
        events := rfl
        hasMore := by simp [backByMessages, backToTurnStart]
        nonempty := fun remain => absurd remain (lt_irrefl 0)
        turnStart := fun remain => absurd remain (lt_irrefl 0) }⟩
  · have back := backByMessages_lt (sessionEventValues time messages) holds remain
    have starts := backToTurnStart_eq time messages (back.trans_le inside)
    refine ⟨_, ⟨inside.trans_eq size.symm, ?_, rfl, ?_, fun _ => ?_, fun _ => ?_⟩⟩
    · rw [starts]
      omega
    · exact decide_eq_true_iff
    · rw [starts]
      omega
    · rw [starts, eventType_turnStart time messages (by omega)]
      omega

/-- What a client asks one page with, and when. -/
structure PageQuery where
  time : Nat
  maximum : Nat

/-- The number of the first event of a page. -/
def firstSeq (page : List Value) : Option Nat :=
  (page.head?.bind fun entry => (entry.get "event").bind fun event => event.get "seq").bind
    fun
      | .number text => some (Value.digitsValue text.toList)
      | _ => none

/-- The pages a client reads, from the newest on back. -/
def pageAt (messages : List ChatMessage) (requests : Nat → PageQuery) :
    Nat → List Value × Bool
  | 0 => historyPage (requests 0).time messages none (requests 0).maximum
  | page + 1 =>
      historyPage (requests (page + 1)).time messages
        (firstSeq (pageAt messages requests page).1) (requests (page + 1)).maximum

/-- What a client has when it puts every page before those it had. -/
def joinedPages (pages : Nat → List Value × Bool) : Nat → List Value
  | 0 => []
  | count + 1 => (pages count).1 ++ joinedPages pages count

/-- The event of an entry of a page, without its time. -/
def entryEvent (entry : Value) : Option Value := (entry.get "event").map withoutTime

variable {messages : List ChatMessage}

/-- A page names its first event. -/
theorem IsPage.firstSeq_eq {time : Nat} {page : List Value × Bool}
    {start stop : Nat} (isPage : IsPage time messages page start stop) (filled : start < stop) :
    firstSeq page.1 = some start := by
  have seqs := eventsFrom_seqs time 0 messages
  have inside := isPage.inside
  rw [← sessionEventValues_eq] at seqs
  rw [length_sessionEventValues] at inside
  have here := congrArg (·[start]?) seqs
  simp only [List.getElem?_map, Nat.mul_zero] at here
  rw [List.getElem?_range' (by omega), Option.map_some, Nat.zero_add, Nat.one_mul] at here
  obtain ⟨event, found, isSeq⟩ := Option.map_eq_some_iff.mp here
  have first : page.1.head? = some (pageEvent event) := by
    rw [isPage.events, List.head?_map, List.head?_take, if_neg (by omega), List.head?_drop, found]
    rfl
  unfold firstSeq
  rw [first, Option.bind_some]
  change ((event.get "seq").bind _) = _
  rw [isSeq, Option.bind_some]
  exact congrArg some (Value.digitsValue_toString start)

/-- The pages of a page that starts where the one before ended are joined in order. -/
theorem IsPage.join {time later : Nat} {page : List Value × Bool}
    {start stop : Nat} (isPage : IsPage time messages page start stop) {newer : List Value}
    (joined : newer.map entryEvent =
      ((sessionEventValues later messages).drop stop).map fun event => some (withoutTime event)) :
    (page.1 ++ newer).map entryEvent =
      ((sessionEventValues later messages).drop start).map
        fun event => some (withoutTime event) := by
  have sameEvents : ∀ first second, (sessionEventValues first messages).map withoutTime =
      (sessionEventValues second messages).map withoutTime := by
    intro first second
    rw [sessionEventValues_eq, sessionEventValues_eq]
    exact eventsFrom_withoutTime first second 0 messages
  have mine : page.1.map entryEvent =
      ((((sessionEventValues later messages).map withoutTime).drop start).take
        (stop - start)).map some := by
    rw [← sameEvents time later, isPage.events]
    simp only [List.map_map, List.map_take, List.map_drop]
    rfl
  have newer_eq : newer.map entryEvent =
      (((sessionEventValues later messages).map withoutTime).drop stop).map some := by
    rw [joined, ← List.map_drop, List.map_map]
    rfl
  have goal : ((sessionEventValues later messages).drop start).map
      (fun event => some (withoutTime event)) =
        (((sessionEventValues later messages).map withoutTime).drop start).map some := by
    rw [← List.map_drop, List.map_map]
    rfl
  rw [List.map_append, mine, newer_eq, goal, ← List.map_append]
  generalize (sessionEventValues later messages).map withoutTime = events
  have rejoined := List.take_append_drop (stop - start) (events.drop start)
  rw [List.drop_drop, Nat.add_sub_cancel' isPage.ordered] at rejoined
  rw [rejoined]

/-- Where the pages of a client begin: each is behind the one before it, and none is behind the
first event. -/
theorem pages_cut (messages : List ChatMessage) (requests : Nat → PageQuery)
    (holds : ∀ page, 0 < (requests page).maximum) (count : Nat)
    (goesOn : ∀ page < count, (pageAt messages requests page).2 = true) :
    ∃ cut : Nat → Nat, cut 0 = 3 * messages.length ∧ ∀ page ≤ count,
      IsPage (requests page).time messages (pageAt messages requests page) (cut (page + 1))
        (cut page) := by
  induction count with
  | zero =>
      obtain ⟨start, isPage⟩ := historyPage_isPage (requests 0).time messages none (holds 0)
      rw [Option.getD_none, Nat.min_self] at isPage
      refine ⟨fun | 0 => 3 * messages.length | _ + 1 => start, rfl, fun page first => ?_⟩
      obtain rfl := Nat.le_zero.mp first
      exact isPage
  | succ count ih =>
      obtain ⟨cut, whole, pages⟩ := ih fun page before => goesOn page (by omega)
      have last := pages count (Nat.le_refl count)
      have older := last.hasMore.mp (goesOn count (Nat.lt_succ_self count))
      have inside := last.inside
      have ordered := last.ordered
      rw [length_sessionEventValues] at inside
      obtain ⟨start, isPage⟩ := historyPage_isPage (requests (count + 1)).time messages
        (firstSeq (pageAt messages requests count).1) (holds (count + 1))
      have next := last.firstSeq_eq (last.nonempty (by omega))
      rw [show historyPage _ messages (firstSeq (pageAt messages requests count).1) _ =
        pageAt messages requests (count + 1) from rfl, next, Option.getD_some,
        Nat.min_eq_left (by omega)] at isPage
      refine ⟨Function.update cut (count + 2) start, ?_, fun page before => ?_⟩
      · rw [Function.update_of_ne (by omega), whole]
      · rcases Nat.lt_or_ge count page with isNew | isOld
        · obtain rfl : page = count + 1 := by omega
          rw [Function.update_self, Function.update_of_ne (by omega)]
          exact isPage
        · rw [Function.update_of_ne (by omega), Function.update_of_ne (by omega)]
          exact pages page isOld

/-- While every page has more behind it, the pages go back. -/
theorem cut_add_le {cut : Nat → Nat} {count : Nat} (falls : ∀ page < count, cut (page + 1) < cut page) :
    cut count + count ≤ cut 0 := by
  induction count with
  | zero => exact Nat.le_refl _
  | succ count ih =>
      have before := ih fun page earlier => falls page (by omega)
      have step := falls count (Nat.lt_succ_self count)
      omega

/-- One page is the last one. -/
theorem exists_last_page (messages : List ChatMessage) (requests : Nat → PageQuery)
    (holds : ∀ page, 0 < (requests page).maximum) :
    ∃ page, (pageAt messages requests page).2 = false := by
  by_contra endless
  have goesOn : ∀ page, (pageAt messages requests page).2 = true :=
    fun page => Bool.eq_true_of_not_eq_false fun ends => endless ⟨page, ends⟩
  obtain ⟨cut, whole, pages⟩ := pages_cut messages requests holds (3 * messages.length + 1)
    fun page _ => goesOn page
  have falls : ∀ page < 3 * messages.length + 1, cut (page + 1) < cut page := by
    intro page before
    have isPage := pages page before.le
    have older := isPage.hasMore.mp (goesOn page)
    exact isPage.nonempty (older.trans_le isPage.ordered)
  have fallen := cut_add_le falls
  omega

/-- The joined pages are the events from where the last of them starts. -/
theorem joinedPages_eq {requests : Nat → PageQuery}
    {cut : Nat → Nat} (count : Nat) (whole : cut 0 = 3 * messages.length)
    (pages : ∀ page < count, IsPage (requests page).time messages
      (pageAt messages requests page) (cut (page + 1)) (cut page)) :
    (joinedPages (pageAt messages requests) count).map entryEvent =
      ((sessionEventValues time messages).drop (cut count)).map
        fun event => some (withoutTime event) := by
  induction count with
  | zero =>
      rw [whole, ← length_sessionEventValues time messages, List.drop_length]
      rfl
  | succ count ih =>
      have newer := ih fun page before => pages page (by omega)
      exact (pages count (Nat.lt_succ_self count)).join newer

/-- A client that follows the pages of a history, whatever it asks for at a time, comes to a last
page and has then every event of the history once and in order.  Each page on the way starts with
a turn, ends where the page before it starts, and says whether events are older. -/
theorem historyPages_cover (messages : List ChatMessage) (requests : Nat → PageQuery)
    (admitted : ∀ page, 1 ≤ (requests page).maximum ∧ (requests page).maximum ≤ 128) :
    ∃ last, (∀ page < last, (pageAt messages requests page).2 = true) ∧
      (pageAt messages requests last).2 = false ∧
      (∀ time, (joinedPages (pageAt messages requests) (last + 1)).map entryEvent =
        (sessionEventValues time messages).map fun event => some (withoutTime event)) ∧
      ∃ cut : Nat → Nat, cut 0 = (sessionEventValues 0 messages).length ∧ cut (last + 1) = 0 ∧
        ∀ page ≤ last, IsPage (requests page).time messages (pageAt messages requests page)
          (cut (page + 1)) (cut page) := by
  classical
  have holds : ∀ page, 0 < (requests page).maximum := fun page => (admitted page).1
  have ends := exists_last_page messages requests holds
  have goesOn : ∀ page < Nat.find ends, (pageAt messages requests page).2 = true :=
    fun page before => Bool.eq_true_of_not_eq_false (Nat.find_min ends before)
  obtain ⟨cut, whole, pages⟩ := pages_cut messages requests holds _ goesOn
  have isLast := pages _ (Nat.le_refl _)
  have none : cut (Nat.find ends + 1) = 0 := by
    refine Nat.eq_zero_of_not_pos fun older => ?_
    cases (isLast.hasMore.mpr older).symm.trans (Nat.find_spec ends)
  refine ⟨Nat.find ends, goesOn, Nat.find_spec ends, fun time => ?_, cut, ?_, none, pages⟩
  · have joined := joinedPages_eq time (Nat.find ends + 1) whole
      fun page before => pages page (Nat.le_of_lt_succ before)
    rwa [none, List.drop_zero] at joined
  · rw [whole, length_sessionEventValues]

/-- Two turns, read a message at a time. -/
theorem historyPages_cover_two : ∃ last,
    (∀ page < last, (pageAt [.user "one", .assistant "first", .user "two", .assistant "second"]
      (fun page => ⟨page, 1⟩) page).2 = true) ∧
    (pageAt [.user "one", .assistant "first", .user "two", .assistant "second"]
      (fun page => ⟨page, 1⟩) last).2 = false := by
  obtain ⟨last, goesOn, ends, -⟩ := historyPages_cover
    [.user "one", .assistant "first", .user "two", .assistant "second"]
    (fun page => ⟨page, 1⟩) fun _ => ⟨Nat.le_refl 1, Nat.le_of_ble_eq_true rfl⟩
  exact ⟨last, goesOn, ends⟩

end Web
end YunXi
