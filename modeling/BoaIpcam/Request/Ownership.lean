import BoaIpcam.Request.Release

/-!
# Every block is released once

What each handler leaves: the books are kept, and what is lost is what `StartsClean` says. With the
steps of the request and `free_request` this gives the exact condition under which every block is
released once.
-/
namespace BoaIpcam.Blocks

open Ledger TransitionSystem

/-! ## Handlers -/

section Handlers

variable {texts : Texts} {offer : Offer}

/-- A handler opens the books: what is held is what the request owns and what the handler lost. -/
def Opens (texts : Texts) (outcome : Handled) (clean : Prop) : Prop :=
  ∃ lost, settle fits (textSet texts) outcome.2.1 =
      some (textSet outcome.1.texts + owned outcome.1 + lost) ∧
    Sound outcome.1 ∧ ¬Unheard outcome.1 ∧ (lost = 0 ∧ ¬BuiltPage outcome.1 ↔ clean)

/-- The condition in other words. -/
theorem Opens.congr {outcome : Handled} {clean clean' : Prop} (opens : Opens texts outcome clean)
    (same : clean ↔ clean') : Opens texts outcome clean' := by
  obtain ⟨lost, settled, sound, quiet, none⟩ := opens
  exact ⟨lost, settled, sound, quiet, none.trans same⟩

/-- A request that sends nothing. -/
theorem isPage_fresh (texts : Texts) (filesize : Nat) (status : Status) :
    IsPage { Request.fresh texts with filesize, status } :=
  ⟨rfl, nofun, nofun, nofun, fun _ => rfl⟩

/-- A handler that fills nothing. -/
theorem opens_nothing (filesize : Nat) (status : Status) (goes : Bool) :
    Opens texts ({ Request.fresh texts with filesize, status }, [], goes) True := by
  refine ⟨0, ?_, (isPage_fresh texts filesize status).sound, nofun, ?_⟩
  · rw [add_zero]
    exact congrArg some (add_zero (textSet texts)).symm
  · exact iff_of_true ⟨rfl, nofun⟩ trivial

/-- A stream that has no frame yet. -/
theorem isStream_begin (kind : Kind) (stream : Fin 16) (zero : kind = .avc → stream = 0) :
    IsStream (begin_ kind stream (.fresh texts)) kind stream :=
  ⟨rfl, rfl, nofun, fun _ => rfl, zero⟩

/-- It owns nothing. -/
theorem frames_begin (kind : Kind) (stream : Fin 16) :
    frames kind stream (begin_ kind stream (.fresh texts)) = 0 := by
  unfold frames videoSet
  cases kind.codec <;> rfl

/-- A stream handler that gives up. -/
theorem opens_begin (kind : Kind) (stream : Fin 16) (zero : kind = .avc → stream = 0) :
    Opens texts (begin_ kind stream (.fresh texts), [], false) True := by
  have streaming := @isStream_begin texts kind stream zero
  refine ⟨0, ?_, streaming.sound, fun ⟨_, _, locked⟩ => locked rfl, ?_⟩
  · rw [streaming.owned, frames_begin, add_zero, add_zero]
    rfl
  · exact iff_of_true ⟨rfl, nofun⟩ trivial

/-- A stream handler that gets a frame. -/
theorem opens_feeds {kind : Kind} {stream : Fin 16} {outcome : Request × List Op}
    (feeds : Feeds kind stream (begin_ kind stream (.fresh texts)) outcome 0)
    (silent : kind = .httpMjpeg → outcome.1.audio = 0) :
    Opens texts (outcome.1, outcome.2, true) True := by
  obtain ⟨settled, streaming, kept⟩ := feeds
  refine ⟨0, ?_, streaming.sound, ?_, ?_⟩
  · have framed := settle_frame settled (textSet texts)
    rw [frames_begin, zero_add, add_zero] at framed
    rw [framed, streaming.owned, kept, add_zero, add_comm]
    rfl
  · rintro ⟨_, type, locked⟩
    cases streaming.type.symm.trans type
    exact locked (silent rfl)
  · exact iff_of_true ⟨rfl, fun built => nomatch streaming.type.symm.trans built.1⟩ trivial

/-- The handlers that lock a frame. -/
theorem opens_getStream (kind : Kind) {codec : Codec} (coded : kind.codec = some codec)
    (stream : Fin 16) (zero : kind = .avc → stream = 0) :
    Opens texts (getStream kind codec stream offer (.fresh texts)) True := by
  unfold getStream
  cases offer.refused with
  | true => exact opens_begin kind stream zero
  | false =>
    cases offer.video with
    | none => exact opens_begin kind stream zero
    | some frame =>
      exact opens_feeds ((isStream_begin kind stream zero).setVideo coded 0 frame) fun _ => rfl

/-- The handlers that lock an audio frame. -/
theorem opens_getAudioStream (kind : Kind) (heard : kind ≠ .jpeg) (other : kind ≠ .httpMjpeg)
    (checksRestart : Bool) :
    Opens texts (getAudioStream kind checksRestart offer (.fresh texts)) True := by
  have zero : kind = .avc → (0 : Fin 16) = 0 := fun _ => rfl
  unfold getAudioStream
  dsimp only
  split
  · exact opens_begin kind 0 zero
  split
  · exact opens_begin kind 0 zero
  · exact opens_feeds ((isStream_begin kind 0 zero).setAudio heard _) fun same => absurd same other

/-- A frame, with VOL data locked. -/
theorem settle_beside {kind : Kind} {stream : Fin 16} {outcome : Request × List Op}
    (feeds : Feeds kind stream (begin_ kind stream (.fresh texts)) outcome 0) (vol : Block) :
    settle fits (textSet texts) (.take vol :: outcome.2) =
      some (vol ::ₘ (textSet outcome.1.texts + owned outcome.1)) := by
  obtain ⟨settled, streaming, kept⟩ := feeds
  have framed := settle_frame settled (vol ::ₘ textSet texts)
  rw [frames_begin, zero_add, add_zero] at framed
  rw [settle_take, framed, streaming.owned, kept, Multiset.add_cons, add_comm]
  rfl

/-- VOL data alone. -/
theorem opens_vol (kind : Kind) (stream : Fin 16) (zero : kind = .avc → stream = 0) (vol : Block)
    {clean : Prop} (wrong : ¬clean) :
    Opens texts (begin_ kind stream (.fresh texts), [.take vol], false) clean := by
  have streaming := @isStream_begin texts kind stream zero
  refine ⟨{vol}, ?_, streaming.sound, fun ⟨_, _, locked⟩ => locked rfl, ?_⟩
  · rw [streaming.owned, frames_begin, add_zero, add_comm, Multiset.singleton_add]
    rfl
  · exact iff_of_false (fun both => Multiset.singleton_ne_zero vol both.1) wrong

/-- The handlers that leave the VOL data locked. -/
theorem opens_getVolStream (kind : Kind) (coded : kind.codec = some .mpeg4) (stream : Fin 16)
    (other : kind ≠ .httpMjpeg) (zero : kind = .avc → stream = 0) :
    Opens texts (getVolStream kind stream offer (.fresh texts))
      (offer.refused = true ∨ offer.vol = none) := by
  unfold getVolStream
  cases offer.refused with
  | true => exact (opens_begin kind stream zero).congr (by simp)
  | false =>
    cases offer.vol with
    | none => exact (opens_begin kind stream zero).congr (by simp)
    | some vol =>
      have wrong : ¬(false = true ∨ some vol = none) := by simp
      cases offer.video with
      | none => exact opens_vol kind stream zero ⟨.vol .mpeg4 stream, vol⟩ wrong
      | some frame =>
        have feeds := (@isStream_begin texts kind stream zero).setVideo coded 0 frame
        refine ⟨{⟨.vol .mpeg4 stream, vol⟩}, ?_, feeds.2.1.sound, feeds.2.1.heard other, ?_⟩
        · refine (settle_append_of_settle (settle_beside feeds ⟨.vol .mpeg4 stream, vol⟩) _).trans ?_
          rw [settle_use (Multiset.mem_cons_self _ _)]
          exact congrArg some ((Multiset.singleton_add _ _).symm.trans (add_comm _ _))
        · exact iff_of_false (fun both => Multiset.singleton_ne_zero _ both.1) wrong

/-- `get_stream_avc`. -/
theorem opens_getStreamAvc :
    Opens texts (getStreamAvc offer (.fresh texts))
      (offer.sharedMemory = false ∨ offer.refused = true ∨ offer.vol = none ∨
        offer.video.isSome = true) := by
  have zero : Kind.avc = .avc → (0 : Fin 16) = 0 := fun _ => rfl
  unfold getStreamAvc
  cases offer.sharedMemory with
  | false => exact (opens_begin .avc 0 zero).congr (by simp)
  | true =>
    cases offer.refused with
    | true => exact (opens_begin .avc 0 zero).congr (by simp)
    | false =>
      cases offer.vol with
      | none => exact (opens_begin .avc 0 zero).congr (by simp)
      | some vol =>
        cases offer.video with
        | none => exact opens_vol .avc 0 zero ⟨.vol .avc 0, vol⟩ (by simp)
        | some frame =>
          have feeds := (@isStream_begin texts .avc 0 zero).setVideo rfl 0 frame
          refine ⟨0, ?_, feeds.2.1.sound, feeds.2.1.heard nofun, ?_⟩
          · refine (settle_append_of_settle (settle_beside feeds ⟨.vol .avc 0, vol⟩) _).trans ?_
            rw [settle_use (Multiset.mem_cons_self _ _),
              settle_release (fits_unlock (isLock_vol .avc 0) vol), add_zero]
            rfl
          · refine iff_of_true ⟨rfl, ?_⟩ (.inr (.inr (.inr rfl)))
            exact fun built => nomatch feeds.2.1.type.symm.trans built.1

/-- The handlers that build a page in memory. -/
theorem opens_memoryPage :
    Opens texts (memoryPage offer (.fresh texts)) (offer.block = none) := by
  unfold memoryPage
  cases offer.block with
  | none => exact (opens_nothing 0 .write false).congr (by simp)
  | some block =>
    have page : IsPage { Request.fresh texts with
        isMemory := true, dataMem := some ⟨.heap, block⟩, filesize := offer.builtSize,
        status := .write } :=
      ⟨rfl, fun other data => by cases data; exact Multiset.mem_singleton_self _, nofun,
        fun _ => ⟨block, rfl⟩, fun _ => rfl⟩
    refine ⟨0, ?_, page.sound, nofun, ?_⟩
    · rw [settle_take, settle_use (Multiset.mem_cons_self _ _), add_zero, add_comm]
      rfl
    · exact iff_of_false (fun both => both.2 ⟨rfl, rfl, rfl⟩) nofun

/-- A handler that tests the number of the stream first. -/
theorem opens_checked (idx : Int) {handler : Fin 16 → Offer → Request → Handled} {clean : Prop}
    (opens : ∀ stream, Opens texts (handler stream offer (.fresh texts)) clean) :
    Opens texts (checked idx handler offer (.fresh texts)) ((idx < 0 ∨ idx > 2) ∨ clean) := by
  unfold checked
  by_cases outside : idx < 0 ∨ idx > 2
  · rw [if_pos outside]
    exact (opens_nothing 0 .write false).congr (by simp only [outside, true_or])
  · rw [if_neg outside]
    exact (opens (Fin.ofNat 16 idx.toNat)).congr (by simp only [outside, false_or])

/-- The end of `init_get`. -/
theorem opens_copyFile (id filesize : Nat) (filepos : Nat) (status : Status) (goes : Bool)
    (used : Bool) :
    Opens texts ({ Request.fresh texts with
        filesize, filepos, status, mmapEntry := some ⟨.entry, id⟩, dataMem := some ⟨.entry, id⟩ },
      .take ⟨.entry, id⟩ :: (if used then [.use ⟨.entry, id⟩] else []), goes) True := by
  have page : IsPage { Request.fresh texts with
      filesize, filepos, status, mmapEntry := some ⟨.entry, id⟩, dataMem := some ⟨.entry, id⟩ } :=
    ⟨rfl, fun other data => by cases data; exact Multiset.mem_singleton_self _,
      fun other entry => by cases entry; rfl, nofun, nofun⟩
  refine ⟨0, ?_, page.sound, nofun, iff_of_true ⟨rfl, nofun⟩ trivial⟩
  have held : settle fits (textSet texts)
      (.take ⟨.entry, id⟩ :: (if used then [.use ⟨.entry, id⟩] else [])) =
        some (⟨.entry, id⟩ ::ₘ textSet texts) := by
    rw [settle_take]
    cases used
    · rfl
    · exact settle_use (Multiset.mem_cons_self _ _)
  rw [held, add_zero, add_comm]
  rfl

/-- A path that is copied in place of the one before. -/
theorem settle_zipped (copy : Option Nat) :
    settle fits (textSet texts)
        ((texts.pathname.toList.map fun id => .release .free ⟨.heap, id⟩) ++
          copy.toList.map fun id => .take ⟨.heap, id⟩) =
      some (textSet { texts with pathname := copy }) := by
  have split_ (path : Option Nat) : textSet { texts with pathname := path } =
      ((path.toList.map fun id => (⟨.heap, id⟩ : Block) : List Block) : Multiset Block) +
        textSet { texts with pathname := none } := by
    simp only [textSet, Texts.blocks, List.map_append, ← Multiset.coe_add, Option.toList_none,
      List.map_nil, Multiset.coe_nil]
    abel
  have released : settle fits (textSet texts)
      ((texts.pathname.toList.map fun id => (⟨.heap, id⟩ : Block)).map (.release .free)) =
      some (textSet { texts with pathname := none }) := by
    rw [show textSet texts = textSet { texts with pathname := texts.pathname } from rfl, split_]
    refine settle_releases _ _ fun block mem => ?_
    obtain ⟨id, -, rfl⟩ := List.mem_map.mp mem
    rfl
  have taken := @settle_takes _ _ _ fits (copy.toList.map fun id => (⟨.heap, id⟩ : Block))
    (textSet { texts with pathname := none })
  rw [← split_] at taken
  rw [List.map_map] at released taken
  exact (settle_append_of_settle released _).trans taken

/-- `init_get`. -/
theorem opens_initGet : Opens texts (initGet offer (.fresh texts)) True := by
  unfold initGet
  split
  · exact opens_nothing 0 .write false
  · rename_i copy _
    refine ⟨0, ?_, (isPage_fresh { texts with pathname := copy } 0 .write).sound, nofun,
      iff_of_true ⟨rfl, nofun⟩ trivial⟩
    rw [add_zero]
    refine (settle_zipped copy).trans (congrArg some ?_)
    exact (add_zero _).symm
  · split
    · exact opens_nothing 0 .write false
    dsimp only
    split
    · exact opens_nothing offer.fileSize .write false
    split
    · exact opens_nothing offer.fileSize .pipeRead true
    split
    · exact opens_nothing offer.fileSize .write false
    rename_i id _
    split
    · rename_i block _ _
      have page : IsPage { Request.fresh texts with
          filesize := offer.builtSize, isMemory := true, mmapPtr := some ⟨.entry, id⟩,
          mmapEntry := some ⟨.entry, id⟩, dataMem := some ⟨.heap, block⟩ } :=
        ⟨rfl, fun other data => by
            cases data
            exact Multiset.mem_cons_of_mem (Multiset.mem_singleton_self _),
          fun other entry => by cases entry; rfl, fun _ => ⟨block, rfl⟩, nofun⟩
      refine ⟨0, ?_, page.sound, nofun, iff_of_true ⟨rfl, nofun⟩ trivial⟩
      rw [settle_take, settle_take,
        settle_use (Multiset.mem_cons_of_mem (Multiset.mem_cons_self _ _)),
        settle_use (Multiset.mem_cons_self _ _), Multiset.cons_swap, add_zero, add_comm]
      rfl
    · unfold copyFile
      dsimp only
      split
      · split
        · exact opens_copyFile id offer.fileSize 0 .write false true
        split
        · exact opens_copyFile id offer.fileSize _ .done true true
        · exact opens_copyFile id offer.fileSize _ .write true true
      · exact opens_copyFile id offer.fileSize 0 .write true false

/-- `uri_dlink_video`. -/
theorem opens_uriDlinkVideo {handler : Offer → Request → Handled} {clean : Prop}
    (opens : Opens texts (handler offer (.fresh texts)) clean) :
    Opens texts (uriDlinkVideo handler offer (.fresh texts)) clean := opens

/-- Every handler opens the books, and loses nothing exactly when `StartsClean` says so. -/
theorem Handler.opens (handler : Handler) :
    Opens texts (handler.run offer (.fresh texts)) (handler.StartsClean offer) := by
  have plain (idx : Int) {handler : Fin 16 → Offer → Request → Handled}
      (opens : ∀ stream, Opens texts (handler stream offer (.fresh texts)) True) :
      Opens texts (checked idx handler offer (.fresh texts)) True := by
    exact (opens_checked idx opens).congr (by simp only [or_true])
  cases handler with
  | get => exact opens_initGet
  | iniHtm => exact opens_memoryPage
  | keywordHtm => exact opens_memoryPage
  | cmdlistHtm => exact opens_memoryPage
  | jpegImage index => exact opens_getStream .jpeg rfl index nofun
  | dlinkJpeg => exact opens_getStream .jpeg rfl 0 nofun
  | mjpeg index => exact opens_getStream .mjpeg rfl index nofun
  | mpeg4 index => exact opens_getVolStream .mpeg4 rfl index nofun nofun
  | h264 index => exact opens_getStream .h264 rfl index nofun
  | avc => exact opens_getStreamAvc
  | httpMjpeg index => exact opens_getStream .httpMjpeg rfl index nofun
  | dlinkMjpeg idx => exact plain idx fun stream => opens_getStream .mjpeg rfl stream nofun
  | dlinkMpeg4 idx =>
    exact opens_checked idx fun stream => opens_getVolStream .dlinkMpeg4 rfl stream nofun nofun
  | dlinkH264 idx => exact plain idx fun stream => opens_getStream .dlinkH264 rfl stream nofun
  | dlinkAudio => exact opens_getAudioStream .audioG726 nofun nofun true
  | approAudio => exact opens_getAudioStream .audioStream nofun nofun false
  | dlinkVideoMjpeg idx =>
    exact opens_uriDlinkVideo (plain idx fun stream => opens_getStream .mjpeg rfl stream nofun)
  | dlinkVideoMpeg4 idx =>
    exact opens_uriDlinkVideo (opens_checked idx fun stream =>
      opens_getVolStream .dlinkMpeg4 rfl stream nofun nofun)
  | dlinkVideoH264 idx =>
    exact opens_uriDlinkVideo (plain idx fun stream => opens_getStream .dlinkH264 rfl stream nofun)

end Handlers

/-! ## The life of a request -/

/-- No block is lost: neither by the handler nor by an action of the run. -/
def LosesNothing (handler : Handler) (offer : Offer) (texts : Texts) (actions : List Action) :
    Prop :=
  handler.StartsClean offer ∧
    Throughout step (fun r action => ¬Loses r action) (start handler offer texts) actions

/-- For every handler, every exit of it and every run of the request, each block is released once,
by the operation it is for, and not used afterwards, exactly when nothing is lost. -/
theorem released_once_iff (handler : Handler) (offer : Offer) (texts : Texts)
    (actions : List Action) :
    Ledger.Balanced fits (life handler offer texts actions) ↔
      LosesNothing handler offer texts actions := by
  obtain ⟨first, settled, sound, quiet, clean⟩ := @Handler.opens texts offer handler
  -- Behind a handler that returns 0 only the status differs.
  have same : owned (start handler offer texts) = owned (handler.run offer (.fresh texts)).1 ∧
      Sound (start handler offer texts) ∧
      (start handler offer texts).texts = (handler.run offer (.fresh texts)).1.texts ∧
      (BuiltPage (start handler offer texts) ↔ BuiltPage (handler.run offer (.fresh texts)).1) ∧
      ¬Unheard (start handler offer texts) := by
    unfold start
    dsimp only
    split
    · exact ⟨rfl, sound, rfl, Iff.rfl, quiet⟩
    · exact ⟨rfl, sound.mark .done _, rfl, Iff.rfl, quiet⟩
  obtain ⟨owns, sound, texts_eq, built, quiet⟩ := same
  obtain ⟨second, run, last, kept, built', none⟩ := sound.run actions
  have taken : settle fits 0 ((texts.blocks.1 ++ texts.blocks.2).map .take) =
      some (textSet texts) := by
    rw [settle_takes, add_zero]
    rfl
  have ran : settle fits (textSet (handler.run offer (.fresh texts)).1.texts +
        owned (handler.run offer (.fresh texts)).1 + first)
      (runOps (start handler offer texts) actions) =
      some (textSet (actions.foldl step (start handler offer texts)).texts +
        owned (actions.foldl step (start handler offer texts)) + (second + first)) := by
    have framed := settle_frame run (textSet (start handler offer texts).texts + first)
    rw [kept, ← texts_eq, ← owns]
    convert framed using 2 <;> abel
  have books : settle fits 0 (life handler offer texts actions) =
      settle fits (textSet (actions.foldl step (start handler offer texts)).texts +
        owned (actions.foldl step (start handler offer texts)) + (second + first))
        (freeRequest (actions.foldl step (start handler offer texts))) := by
    rw [life, List.append_assoc, List.append_assoc, settle_append_of_settle taken,
      settle_append_of_settle settled, settle_append_of_settle ran]
  rw [LosesNothing, ← clean]
  by_cases page : BuiltPage (handler.run offer (.fresh texts)).1
  · have spoilt := last.misfit (built'.mpr (built.mpr page))
    exact iff_of_false (Ledger.not_balanced (books.trans (spoilt _))) fun both => both.1.2 page
  · have other := fun page' => page (built.mp (built'.mp page'))
    rw [Ledger.balanced_iff (books.trans (last.freeRequest other (second + first))),
      nothing_left_iff, nothing_left_iff, unheardSet_eq_zero_iff]
    have clean' := none.trans (and_iff_right quiet)
    constructor
    · rintro ⟨silent, nothing, nothing'⟩
      exact ⟨⟨nothing', page⟩, clean'.mp ⟨nothing, silent⟩⟩
    · rintro ⟨⟨nothing', -⟩, run⟩
      obtain ⟨nothing, silent⟩ := clean'.mpr run
      exact ⟨silent, nothing, nothing'⟩

/-- What a handler finds when `malloc` gives a block for a page of 5 bytes and nothing else is
there. -/
def pageOffer : Offer where
  found := .nothing
  notModified := false
  headOnly := false
  fileSize := 0
  maxFileMmap := 102400
  entry := none
  needParse := false
  block := some 2
  builtSize := 5
  room := 0
  sigbus := false
  refused := false
  sharedMemory := false
  audioEnabled := false
  video := none
  audio := none
  vol := none

/-- `uri_ini_htm` fills a block from `malloc`; the page is sent, and `free_request` unmaps the
block. -/
theorem uriIniHtm_unmaps_its_page :
    ¬∀ (handler : Handler) (offer : Offer) (texts : Texts) (actions : List Action),
      Ledger.Balanced fits (life handler offer texts actions) := by
  intro balanced
  have page := balanced .iniHtm pageOffer ⟨[], none, none, some 1, none, none, none⟩
    [.turn ⟨.wrote 5, false, none, none, false, none⟩]
  have spoilt : settle fits 0
      (life .iniHtm pageOffer ⟨[], none, none, some 1, none, none, none⟩
        [.turn ⟨.wrote 5, false, none, none, false, none⟩]) = none := by decide
  exact nomatch spoilt.symm.trans page

end BoaIpcam.Blocks
