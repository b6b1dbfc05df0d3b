import RemoteStub.Target.Document
import RemoteStub.Proofs.Command.Grammar
import RemoteStub.Proofs.Frame
import RemoteStub.Proofs.Responder

/-!
# Paged transfers

A client fetches an object page by page (`Fetch`): it asks for the part that begins where
the last one ended, until it is told that there is no more. `fetch_lossless`: what it has
then is the object, after as many requests as the object has pages.
-/

namespace RemoteStub

def pageRequest (object annex : Text) (offset length : Nat) : Text :=
  "qXfer:".toList ++ object ++ ':' :: "read".toList ++ ':' :: annex ++
    ':' :: (Nat.toDigits 16 offset ++ ',' :: Nat.toDigits 16 length)

inductive Progress where
  | fetching
  | complete
  /-- A reply was refused, empty or not readable. -/
  | failed
  deriving DecidableEq, Repr

structure Fetch (σ : Type) where
  responder : Responder σ
  offset : Nat := 0
  data : Bytes := []
  replies : List Bytes := []
  progress : Progress := .fetching

/-- A target that serves a document, whatever state it is in. -/
def Target.Serves {σ : Type} (t : Target σ) (d : Document) : Prop :=
  ∀ offset length s,
    ((t.transfer d.object d.annex offset length).run s).1 = some (d.page offset.toNat length.toNat)

/-- As many pages as the data takes, and one if there is none. -/
def pageCount (size length : Nat) : Nat := max 1 ((size + length - 1) / length)

namespace Fetch

variable {σ : Type}

/-- Takes in a reply: its first byte tells whether it is the last one, the others are data. -/
def take (f : Fetch σ) : Bytes → Fetch σ
  | [] => { f with progress := .failed }
  | kind :: escaped =>
    match unescape? escaped with
    | none => { f with progress := .failed }
    | some page =>
      { f with
        offset := f.offset + page.length
        data := f.data ++ page
        replies := f.replies ++ [kind :: escaped]
        progress := if kind = 0x6c then .complete else .fetching }

/-- Asks for the next page, unless the fetch is over. -/
def request (object annex : Text) (length : Nat) (f : Fetch σ) : Fetch σ :=
  match f.progress with
  | .fetching =>
    match f.responder.respond (pageRequest object annex f.offset length) with
    | (.ok reply, responder) => { f with responder }.take reply
    | (.error _, responder) => { f with responder, progress := .failed }
  | _ => f

/-- The fetch of an object after `k` requests. -/
def after (r : Responder σ) (object annex : Text) (length : Nat) : Nat → Fetch σ
  | 0 => { responder := r }
  | k + 1 => (after r object annex length k).request object annex length

end Fetch

/-! ## Pages -/

theorem lt_pageCount_iff {size n : Nat} (hn : 1 ≤ n) (k : Nat) :
    k < pageCount size n ↔ k = 0 ∨ k * n < size := by
  have hdiv : k < (size + n - 1) / n ↔ k * n < size := by
    rw [Nat.lt_iff_add_one_le, Nat.le_div_iff_mul_le hn, Nat.add_mul]
    omega
  unfold pageCount
  generalize (size + n - 1) / n = q at *
  omega

theorem le_of_lt_pageCount {size n k : Nat} (hn : 1 ≤ n) (hk : k < pageCount size n) :
    k * n ≤ size := by
  rcases (lt_pageCount_iff hn k).mp hk with rfl | hlt
  · omega
  · exact Nat.le_of_lt hlt

theorem le_of_pageCount_le {size n k : Nat} (hn : 1 ≤ n) (hk : pageCount size n ≤ k) :
    size ≤ k * n := by
  have := mt (lt_pageCount_iff hn k).mpr (Nat.not_lt.mpr hk)
  omega

namespace Document

variable {d : Document} {offset : Nat}

theorem data_page (h : offset ≤ d.data.length) (n : Nat) :
    (d.page offset n).data = (d.data.drop offset).take n := by
  simp only [page, Nat.min_eq_left h]
  by_cases hn : offset + n ≤ d.data.length
  · rw [Nat.min_eq_left hn, Nat.add_sub_cancel_left]
  · rw [Nat.min_eq_right (by omega), List.take_of_length_le (by simp),
      List.take_of_length_le (by simp; omega)]

theorem more_page (h : offset ≤ d.data.length) (n : Nat) :
    (d.page offset n).more = decide (offset + n < d.data.length) := by
  simp only [page, Nat.min_eq_left h]
  congr 1
  apply propext
  omega

theorem payload_page (h : offset ≤ d.data.length) (n : Nat) :
    (d.page offset n).payload =
      (if offset + n < d.data.length then 0x6d else 0x6c) ::
        escape ((d.data.drop offset).take n) := by
  simp [Chunk.payload, data_page h, more_page h]

end Document

/-! ## One request -/

section
variable {σ : Type} {d : Document} {n : Nat} {r : Responder σ}

theorem parse_pageRequest {object annex : Text} {offset : Nat} (ho : ':' ∉ object) (ha : ':' ∉ annex)
    (hoffset : offset < UInt64.size) (hn : n < UInt64.size) :
    Command.parse (pageRequest object annex offset n) =
      .ok (.transfer object "read".toList annex (.ofNat offset) (.ofNat n)) := by
  have hs := Command.spans_toDigits hoffset hn
  have hm : ':' ∉ "read".toList := by decide
  exact Command.parse_of_reads (.transfer hs ho hm ha (Command.not_mem_of_spans hs))

theorem respond_pageRequest (hs : r.target.Serves d) (ho : ':' ∉ d.object) (ha : ':' ∉ d.annex)
    {offset : Nat} (hoffset : offset < UInt64.size) (hn : n < UInt64.size) :
    ∃ r', r.respond (pageRequest d.object d.annex offset n) = (.ok (d.page offset n).payload, r') ∧
      r'.target = r.target := by
  have hp := parse_pageRequest ho ha hoffset hn
  have hserved := hs (.ofNat offset) (.ofNat n) r.state
  rw [UInt64.toNat_ofNat_of_lt' hoffset, UInt64.toNat_ofNat_of_lt' hn] at hserved
  have hpayload := Target.fst_answer_transfer hserved
  obtain ⟨reply, r', hr⟩ := Responder.respond_of_ok (r := r) hp
  obtain ⟨command, state, hp', hanswer, rfl⟩ := Responder.respond_eq_ok hr
  rw [hp, Except.ok.injEq] at hp'
  subst hp'
  rw [Command.query] at hanswer
  rw [hanswer] at hpayload
  rw [hr, ← hpayload]
  exact ⟨_, rfl, rfl⟩

theorem Fetch.take_payload (f : Fetch σ) (kind : UInt8) (page : Bytes) :
    f.take (kind :: escape page) =
      { f with
        offset := f.offset + page.length
        data := f.data ++ page
        replies := f.replies ++ [kind :: escape page]
        progress := if kind = 0x6c then .complete else .fetching } := by
  simp only [take, unescape?_escape]

/-- What a fetch is after `k` requests, as long as the object is not exceeded. -/
structure Fetched (r : Responder σ) (d : Document) (n k : Nat) (f : Fetch σ) : Prop where
  target : f.responder.target = r.target
  offset : f.offset = min (k * n) d.data.length
  data : f.data = d.data.take (k * n)
  replies : f.replies = (List.range k).map fun i => (d.page (i * n) n).payload
  progress : f.progress = if k < pageCount d.data.length n then .fetching else .complete

theorem fetched_start (r : Responder σ) (d : Document) (n : Nat) :
    Fetched r d n 0 { responder := r } where
  target := rfl
  offset := by simp
  data := by simp
  replies := rfl
  progress := by
    rw [if_pos]
    unfold pageCount
    omega

theorem Fetched.request {k : Nat} {f : Fetch σ} (h : Fetched r d n k f) (hs : r.target.Serves d)
    (ho : ':' ∉ d.object) (ha : ':' ∉ d.annex) (hd : d.data.length < UInt64.size) (hn : 1 ≤ n)
    (hn' : n < UInt64.size) (hk : k < pageCount d.data.length n) :
    Fetched r d n (k + 1) (f.request d.object d.annex n) := by
  have hle := le_of_lt_pageCount hn hk
  have hoffset : f.offset = k * n := by rw [h.offset, Nat.min_eq_left hle]
  have hsucc : (k + 1) * n = k * n + n := by rw [Nat.add_mul, Nat.one_mul]
  rw [← h.target] at hs
  have hlt : k * n < UInt64.size := by omega
  obtain ⟨r', hr, ht⟩ := respond_pageRequest hs ho ha hlt hn'
  have hreq : f.request d.object d.annex n =
      ({ f with responder := r' } : Fetch σ).take (d.page (k * n) n).payload := by
    unfold Fetch.request
    rw [h.progress, if_pos hk, hoffset, hr]
  rw [hreq, Document.payload_page hle, Fetch.take_payload]
  constructor
  · exact ht.trans h.target
  · simp only [hoffset, hsucc, List.length_take, List.length_drop]
    omega
  · simp only [h.data, hsucc, List.take_add]
  · simp only [h.replies, List.range_succ, List.map_append, List.map_cons, List.map_nil,
      Document.payload_page hle]
  · have hiff : k + 1 < pageCount d.data.length n ↔ k * n + n < d.data.length := by
      rw [lt_pageCount_iff hn, hsucc]
      omega
    simp only [hiff]
    by_cases hmore : k * n + n < d.data.length
    · simp [hmore]
    · simp [hmore]

theorem fetched_after (hs : r.target.Serves d) (ho : ':' ∉ d.object) (ha : ':' ∉ d.annex)
    (hd : d.data.length < UInt64.size) (hn : 1 ≤ n) (hn' : n < UInt64.size) {k : Nat}
    (hk : k ≤ pageCount d.data.length n) :
    Fetched r d n k (Fetch.after r d.object d.annex n k) := by
  induction k with
  | zero => exact fetched_start r d n
  | succ k ih => exact (ih (by omega)).request hs ho ha hd hn hn' (by omega)

/-- A page that is not the last one is not empty. -/
theorem exists_payload_of_more {k : Nat} (hn : 1 ≤ n) (hk : k + 1 < pageCount d.data.length n) :
    ∃ page, page ≠ [] ∧ (d.page (k * n) n).payload = 0x6d :: escape page := by
  have hmore : k * n + n < d.data.length := by
    have := (lt_pageCount_iff hn (k + 1)).mp hk
    rw [Nat.add_mul, Nat.one_mul] at this
    omega
  refine ⟨(d.data.drop (k * n)).take n, ?_, ?_⟩
  · apply List.ne_nil_of_length_pos
    rw [List.length_take, List.length_drop]
    omega
  · rw [Document.payload_page (by omega), if_pos hmore]

theorem exists_payload_of_last {k : Nat} (hn : 1 ≤ n) (hk : k + 1 = pageCount d.data.length n) :
    ∃ page, (d.page (k * n) n).payload = 0x6c :: escape page := by
  have hend := le_of_pageCount_le hn (Nat.le_of_eq hk.symm)
  rw [Nat.add_mul, Nat.one_mul] at hend
  rw [Document.payload_page (le_of_lt_pageCount hn (by omega)), if_neg (by omega)]
  exact ⟨_, rfl⟩

/-- **A paged transfer loses nothing.** The fetch is over after as many requests as the object has
pages and no sooner, and has the whole object then. Every reply but the last says that more
follows, and brings some of it. -/
theorem fetch_lossless (hs : r.target.Serves d) (ho : ':' ∉ d.object) (ha : ':' ∉ d.annex)
    (hd : d.data.length < UInt64.size) (hn : 1 ≤ n) (hn' : n < UInt64.size) :
    let f := Fetch.after r d.object d.annex n
    let pages := max 1 ((d.data.length + n - 1) / n)
    (∀ k < pages, (f k).progress = .fetching) ∧
      (f pages).progress = .complete ∧
      (f pages).data = d.data ∧
      (f pages).replies.length = pages ∧
      (∀ reply ∈ (f pages).replies.dropLast, ∃ page, page ≠ [] ∧ reply = 0x6d :: escape page) ∧
      ∃ page, (f pages).replies.getLast? = some (0x6c :: escape page) := by
  intro f pages
  have hpages : pages = pageCount d.data.length n := rfl
  have hall : ∀ k ≤ pages, Fetched r d n k (f k) :=
    fun k hk => fetched_after hs ho ha hd hn hn' hk
  clear_value f pages
  -- the last page is read apart from those before it
  obtain ⟨j, rfl⟩ : ∃ j, pages = j + 1 := ⟨pages - 1, by unfold pageCount at hpages; omega⟩
  have hlast := hall _ (Nat.le_refl _)
  have hreplies : (f (j + 1)).replies =
      (List.range j).map (fun i => (d.page (i * n) n).payload) ++ [(d.page (j * n) n).payload] := by
    rw [hlast.replies, List.range_succ, List.map_append, List.map_singleton]
  refine ⟨?_, ?_, ?_, ?_, ?_, ?_⟩
  · intro k hk
    rw [(hall k (Nat.le_of_lt hk)).progress, if_pos (hpages ▸ hk)]
  · rw [hlast.progress, if_neg (by omega)]
  · rw [hlast.data, List.take_of_length_le (le_of_pageCount_le hn (Nat.le_of_eq hpages.symm))]
  · rw [hlast.replies, List.length_map, List.length_range]
  · intro reply hreply
    rw [hreplies, List.dropLast_concat] at hreply
    obtain ⟨i, hi, rfl⟩ := List.mem_map.mp hreply
    rw [List.mem_range] at hi
    exact exists_payload_of_more hn (by omega)
  · obtain ⟨page, hpage⟩ := exists_payload_of_last (d := d) hn hpages
    exact ⟨page, by rw [hreplies, List.getLast?_concat, hpage]⟩

theorem serves_of_find? {docs : List Document}
    (h : Document.find? docs d.object d.annex = some d) :
    ({ transfer := Document.serve docs } : Target σ).Serves d := by
  intro offset length s
  show (Document.find? docs d.object d.annex).map _ = _
  rw [h]
  rfl

end

theorem fetch_lossless_escaped :
    let d : Document :=
      { object := "features".toList, annex := "target.xml".toList, data := [0x23, 0x7d, 0x24, 0x61] }
    let r : Responder Unit := { target := { transfer := Document.serve [d] }, state := () }
    let f := Fetch.after r d.object d.annex 2
    r.target.Serves d ∧ ':' ∉ d.object ∧ ':' ∉ d.annex ∧
      (f 1).progress = .fetching ∧ (f 2).progress = .complete ∧ (f 2).data = d.data ∧
      (f 2).replies.length = 2 := by
  intro d r f
  have hs : r.target.Serves d := serves_of_find? rfl
  have ho : ':' ∉ d.object := by decide
  have ha : ':' ∉ d.annex := by decide
  obtain ⟨hfetching, hcomplete, hdata, hlength, -⟩ :=
    fetch_lossless (n := 2) hs ho ha (by decide) (by decide) (by decide)
  have hpages : max 1 ((d.data.length + 2 - 1) / 2) = 2 := by decide
  rw [hpages] at hcomplete hdata hlength
  exact ⟨hs, ho, ha, hfetching 1 (by decide), hcomplete, hdata, hlength⟩

end RemoteStub
