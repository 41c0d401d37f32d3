import BlobFs.Proofs.Service.Lookup
import BlobFs.Proofs.Store.InFlight
import BlobFs.Service.Words

/-!
# Downloads in a process that computes with words

A download cuts its range with words first.  If all sums fit (`chunkSums`), it goes on as if there
were no limit (`download_inMemoryWords_of_lt`); if one does not, the process ends
(`world_download_inMemoryWords_eq_none_iff`).

`BlobService.download_ok_iff` is what that makes of a download of an object: as long as the end of
the range and one chunk more fit a word, it brings exactly the bytes of the range, or fails because
not all of them are there.  How the range is cut and how many chunks are asked for at once makes no
difference to the bytes.  Of a failure it changes the wording: the store refuses a chunk that starts
past the end of the object, and cuts one that only ends there (`download_past_end`).
-/

set_option autoImplicit false

namespace BlobFs

open ContainerStore (pathOf)

/-! ## Cutting with words first -/

section

variable {σ : Type} {offset length : Nat} {transfer : TransferOptions}

theorem ContainerStore.downloadRange?_of_lt
    (h : ∀ sum ∈ chunkSums offset length transfer.chunkSize, sum < wordLimit)
    (store : ContainerStore σ) (name : String) (state : σ) :
    store.downloadRange? name offset length transfer state =
      some (store.downloadRange name offset length transfer state) := by
  rw [downloadRange?, chunkRanges?_of_lt h, downloadRange]
  split
  · rfl
  · cases pathOf name <;> rfl

theorem ContainerStore.downloadRange?_eq_none_iff {name : String} {path : ObjectPath}
    (hp : pathOf name = .ok path) (hpos : 0 < length) (store : ContainerStore σ) (state : σ) :
    store.downloadRange? name offset length transfer state = none ↔
      ∃ sum ∈ chunkSums offset length transfer.chunkSize, wordLimit ≤ sum := by
  rw [downloadRange?, if_neg (by omega), hp]
  exact Option.map_eq_none_iff.trans chunkRanges?_eq_none_iff

theorem StoreOpener.download?_of_lt
    (h : ∀ sum ∈ chunkSums offset length transfer.chunkSize, sum < wordLimit)
    (opener : StoreOpener σ) (blob : BlobName) (state : σ) :
    opener.download? blob offset length transfer state =
      some (opener.download blob offset length transfer state) := by
  rw [download?, download]
  split
  · rfl
  · cases opener blob.container with
    | error e => rfl
    | ok store => exact store.downloadRange?_of_lt h blob.path state

theorem StoreOpener.download?_eq_none_iff {opener : StoreOpener σ} {store : ContainerStore σ}
    {blob : BlobName} {path : ObjectPath} (hopen : opener blob.container = .ok store)
    (hp : pathOf blob.path = .ok path) (hpos : 0 < length) (state : σ) :
    opener.download? blob offset length transfer state = none ↔
      ∃ sum ∈ chunkSums offset length transfer.chunkSize, wordLimit ≤ sum := by
  rw [download?, if_neg (by omega), hopen]
  exact store.downloadRange?_eq_none_iff hp hpos state

end

theorem snd_stepWhileGoing_eq_none_iff {σ ε α : Type} {ended : ε}
    {step : σ → Option (Except ε α × σ)} {state : σ} :
    (stepWhileGoing ended step (some state)).2 = none ↔ step state = none := by
  rw [stepWhileGoing]
  cases step state <;> simp

namespace BlobService

section

variable {offset length : Nat} {transfer : TransferOptions}

/-- A download whose sums fit is one without a limit. -/
theorem download_inMemoryWords_of_lt
    (h : ∀ sum ∈ chunkSums offset length transfer.chunkSize, sum < wordLimit) (blob : BlobName)
    (w : MemoryWorld) :
    inMemoryWords.download () blob offset length transfer (some w) =
      ((inMemory.download () blob offset length transfer w).1,
        some (inMemory.download () blob offset length transfer w).2) := by
  simp only [inMemoryWords, inWords, stepWhileGoing, StoreOpener.download?_of_lt h]
  rfl

/-- **The process ends in a download exactly if one of its sums does not fit.** -/
theorem world_download_inMemoryWords_eq_none_iff {w : MemoryWorld} {blob : BlobName}
    {path : ObjectPath} (hopens : blob.container ∉ w.broken) (hp : pathOf blob.path = .ok path)
    (hpos : 0 < length) :
    (inMemoryWords.download () blob offset length transfer (some w)).2 = none ↔
      ∃ sum ∈ chunkSums offset length transfer.chunkSize, wordLimit ≤ sum :=
  snd_stepWhileGoing_eq_none_iff.trans
    (StoreOpener.download?_eq_none_iff (MemoryWorld.opener_of_not_mem hopens) hp hpos w)

end

/-! ## Downloads of an object -/

section

variable {w : MemoryWorld} {container name : String} {key : ObjectPath} {object : StoredObject}
  {offset length : Nat}

theorem download_inMemory_eq (hopens : container ∉ w.broken) (hpos : 0 < length)
    (transfer : TransferOptions) :
    inMemory.download () ⟨container, name⟩ offset length transfer w =
      (MemoryWorld.calls.under (.encode container)).downloadRange name offset length transfer w := by
  simp only [inMemory, StoreOpener.download, MemoryWorld.opener_of_not_mem hopens]
  exact if_neg (by omega)

/-- Only the size of the chunks is looked at. -/
theorem download_inMemoryWords_congr {first second : TransferOptions}
    (h : first.chunkSize = second.chunkSize) (blob : BlobName) (offset length : Nat)
    (world : Option MemoryWorld) :
    inMemoryWords.download () blob offset length first world =
      inMemoryWords.download () blob offset length second world := by
  simp only [inMemoryWords, inWords, StoreOpener.download?, ContainerStore.downloadRange?,
    ContainerStore.downloadRange, h]

/-- Past the end of an object, the first chunk that starts there is refused; if there is none, the
last chunk is cut, and the whole is too short. -/
theorem download_past_end (hfaults : w.store.faults = []) (hopens : container ∉ w.broken)
    (hname : pathOf name = .ok key)
    (hget : w.store.store.get? ((ObjectPath.encode container).append key) = some object)
    (hpos : 0 < length) (hpast : object.data.length < offset + length)
    (transfer : TransferOptions) :
    inMemory.download () ⟨container, name⟩ offset length transfer w =
      (.error (match (chunkRanges offset length transfer.chunkSize).find? fun chunk ↦
          object.data.length ≤ chunk.1 with
        | some chunk => (ObjectStore.pastEnd object.data.length chunk.1).toRemote
        | none => .other
          s!"Short read of '{name}': expected {length} bytes, got {object.data.length - offset}"),
        w) := by
  rw [download_inMemory_eq hopens hpos, ContainerStore.downloadRange_of_cuts hname
    (MemoryWorld.cuts_calls hfaults hget).under hpos, if_neg (Nat.not_le.2 hpast)]
  cases (chunkRanges offset length transfer.chunkSize).find? fun chunk ↦
    object.data.length ≤ chunk.1 <;> rfl

/-! What follows is about a range of an object whose end and one chunk more fit a word. -/

theorem download_within (hfaults : w.store.faults = []) (hopens : container ∉ w.broken)
    (hname : pathOf name = .ok key)
    (hget : w.store.store.get? ((ObjectPath.encode container).append key) = some object)
    (hb : offset + length ≤ object.data.length) {transfer : TransferOptions}
    (hfits : offset + length + transfer.chunkSize < wordLimit) :
    inMemoryWords.download () ⟨container, name⟩ offset length transfer (some w) =
      (.ok (object.data.slice offset length), some w) := by
  rw [download_inMemoryWords_of_lt (chunkSums_lt hfits),
    MemoryWorld.download_of_get? hfaults hopens hname hget hb]

theorem exists_download_past_end (hfaults : w.store.faults = []) (hopens : container ∉ w.broken)
    (hname : pathOf name = .ok key)
    (hget : w.store.store.get? ((ObjectPath.encode container).append key) = some object)
    (hpos : 0 < length) (hpast : object.data.length < offset + length) {transfer : TransferOptions}
    (hfits : offset + length + transfer.chunkSize < wordLimit) :
    ∃ message, inMemoryWords.download () ⟨container, name⟩ offset length transfer (some w) =
      (.error (.other message), some w) := by
  rw [download_inMemoryWords_of_lt (chunkSums_lt hfits),
    download_past_end hfaults hopens hname hget hpos hpast]
  cases (chunkRanges offset length transfer.chunkSize).find? fun chunk ↦
    object.data.length ≤ chunk.1 <;> exact ⟨_, rfl⟩

/-- However many chunks are asked for at once, what has been collected in the end makes the answer of
the download. -/
theorem joined_of_outcome? (hfaults : w.store.faults = []) (hopens : container ∉ w.broken)
    (hname : pathOf name = .ok key) (hpos : 0 < length) {transfer : TransferOptions}
    (hfits : offset + length + transfer.chunkSize < wordLimit) {limit : Nat}
    {t : InFlight MemoryWorld}
    (hreaches : InFlight.Reaches (MemoryWorld.calls.under (.encode container)) key limit
      (.new (chunkRanges offset length transfer.chunkSize) w) t)
    {fetched : Except RemoteError (List Bytes)} (hend : t.outcome? = some fetched) :
    ContainerStore.joined name length fetched =
      (inMemoryWords.download () ⟨container, name⟩ offset length transfer (some w)).1 := by
  have hstill : ∀ start stop,
      ((MemoryWorld.calls.under (.encode container)).getRange key start stop w).2 = w :=
    fun start stop ↦ by
      simp only [ContainerStore.under, MemoryWorld.calls, FaultyStore.getRange_eq hfaults]
  rw [download_inMemoryWords_of_lt (chunkSums_lt hfits), download_inMemory_eq hopens hpos,
    ContainerStore.downloadRange_eq_joined hname _ hpos,
    InFlight.fetchChunks_eq_of_outcome? hstill hreaches hend]

/-- **A download is exact or an error.**  Let an object be in a container that opens, in a store
without faults, and let the end of a range of it and one chunk more fit a word.  Then a download of
the range does not end the process and leaves the store as it is, and

* it succeeds exactly if the range lies within the object, and brings the bytes of the range;
* past the end it fails, whether the last chunk is cut there or a whole chunk lies behind;
* any other way to split the download up, if it fits too, brings the same bytes or fails as well,
  and with chunks of the same size the answer is the same to the letter;
* as many requests as are allowed at once, and in whichever order they are answered, what has been
  collected in the end makes this answer, and the end can always be reached. -/
theorem download_ok_iff (hfaults : w.store.faults = []) (hopens : container ∉ w.broken)
    (hname : pathOf name = .ok key)
    (hget : w.store.store.get? ((ObjectPath.encode container).append key) = some object)
    (hpos : 0 < length) {transfer : TransferOptions}
    (hfits : offset + length + transfer.chunkSize < wordLimit) :
    let download := fun transfer ↦
      inMemoryWords.download () ⟨container, name⟩ offset length transfer (some w)
    let Reaches := InFlight.Reaches (MemoryWorld.calls.under (.encode container)) key
      (max transfer.concurrency 1)
    (download transfer).2 = some w ∧
    ((∃ data, (download transfer).1 = .ok data) ↔ offset + length ≤ object.data.length) ∧
    (∀ data, (download transfer).1 = .ok data →
      data = object.data.slice offset length ∧ data.length = length) ∧
    (object.data.length < offset + length →
      ∃ message, (download transfer).1 = .error (.other message)) ∧
    (∀ other : TransferOptions, offset + length + other.chunkSize < wordLimit →
      (download other).1.toOption = (download transfer).1.toOption ∧
        (other.chunkSize = transfer.chunkSize → download other = download transfer)) ∧
    ∀ t, Reaches (.new (chunkRanges offset length transfer.chunkSize) w) t →
      (∀ fetched, t.outcome? = some fetched →
        ContainerStore.joined name length fetched = (download transfer).1) ∧
      ∃ last, Reaches t last ∧ last.outcome?.isSome := by
  intro download Reaches
  have hways : ∀ t, Reaches (.new (chunkRanges offset length transfer.chunkSize) w) t →
      (∀ fetched, t.outcome? = some fetched →
        ContainerStore.joined name length fetched = (download transfer).1) ∧
      ∃ last, Reaches t last ∧ last.outcome?.isSome := fun t hreaches ↦
    ⟨fun fetched hend ↦ joined_of_outcome? hfaults hopens hname hpos hfits hreaches hend,
      InFlight.exists_end (by omega) t⟩
  have hsame : ∀ other : TransferOptions, other.chunkSize = transfer.chunkSize →
      download other = download transfer := fun other hsize ↦
    download_inMemoryWords_congr hsize _ offset length _
  by_cases hb : offset + length ≤ object.data.length
  · have hok : download transfer = _ := download_within hfaults hopens hname hget hb hfits
    refine ⟨by rw [hok], iff_of_true ⟨_, by rw [hok]⟩ hb, ?_, fun hpast ↦ ?_,
      fun other hother ↦ ⟨?_, hsame other⟩, hways⟩
    · rw [hok]
      rintro data ⟨⟩
      exact ⟨rfl, Bytes.length_slice_of_le hb⟩
    · omega
    · have hotherOk : download other = _ := download_within hfaults hopens hname hget hb hother
      rw [hok, hotherOk]
  · have hpast : object.data.length < offset + length := Nat.not_le.1 hb
    obtain ⟨message, hfailed⟩ : ∃ message, download transfer = (.error (.other message), some w) :=
      exists_download_past_end hfaults hopens hname hget hpos hpast hfits
    refine ⟨by rw [hfailed], iff_of_false ?_ hb, ?_, fun _ ↦ ⟨message, by rw [hfailed]⟩,
      fun other hother ↦ ⟨?_, hsame other⟩, hways⟩
    · rw [hfailed]
      rintro ⟨data, ⟨⟩⟩
    · rw [hfailed]
      rintro data ⟨⟩
    · obtain ⟨otherMessage, hotherFailed⟩ : ∃ message,
          download other = (.error (.other message), some w) :=
        exists_download_past_end hfaults hopens hname hget hpos hpast hother
      rw [hfailed, hotherFailed]
      rfl

/-- A blob of five bytes. -/
def fiveBytes : MemoryWorld :=
  { store := { store := ⟨[(⟨"box/file"⟩, ⟨[0, 1, 2, 3, 4], 0⟩)]⟩, faults := [] }
    broken := []
    attempts := { specs := [], refusals := 0, made := 0 } }

/-- Three bytes in two chunks are there.  Of six bytes in three chunks, the last lies behind the
blob. -/
theorem download_three_of_five :
    let download := fun length ↦
      inMemoryWords.download () ⟨"box", "file"⟩ 1 length { concurrency := 3, chunkSize := 2 }
        (some fiveBytes)
    download 3 = (.ok [1, 2, 3], some fiveBytes) ∧
      ∃ message, download 6 = (.error (.other message), some fiveBytes) := by
  intro download
  have hname : pathOf "file" = .ok ⟨"file"⟩ := rfl
  have hget : fiveBytes.store.store.get? ((ObjectPath.encode "box").append ⟨"file"⟩) =
      some ⟨[0, 1, 2, 3, 4], 0⟩ := by decide +kernel
  have hthree : 1 + 3 + ({ concurrency := 3, chunkSize := 2 } : TransferOptions).chunkSize <
      wordLimit := by decide
  have hsix : 1 + 6 + ({ concurrency := 3, chunkSize := 2 } : TransferOptions).chunkSize <
      wordLimit := by decide
  obtain ⟨hkept, hiff, hbytes, -⟩ :=
    download_ok_iff rfl List.not_mem_nil hname hget (by decide) hthree
  obtain ⟨hleft, -, -, hpast, -⟩ :=
    download_ok_iff rfl List.not_mem_nil hname hget (by decide) hsix
  obtain ⟨data, hok⟩ := hiff.2 (by decide)
  obtain ⟨message, hfailed⟩ := hpast (by decide)
  obtain rfl : data = [1, 2, 3] := (hbytes data hok).1
  exact ⟨Prod.ext hok hkept, message, Prod.ext hfailed hleft⟩

end

end BlobService

end BlobFs
