import Sofon.Store.RedisClient

/-!
# The scheduler

`Scheduler.doWork`: what the scheduler does at a tick.  It pops a batch of the
least entries of the schedule, due or not, and goes through it in order.  A due
monitor is offered to `jobChan`; when the channel is full it is scheduled again
two seconds after its time.  The first entry that is not due sends itself and
everything behind it back.

A member is a text, and the monitor is what `uuid.Parse` reads in it.  That package
is not part of the repository, so what it makes of texts other than printed ids is
the parameter `parse` of the loop.  Two members may be read as one monitor; they
remain two entries.  What goes back is the member, as it was written.

`StartScheduler` is the loop around it, and part of the pipeline.
-/

namespace Sofon

open Interleaving

namespace Scheduler

/-- The loop of `doWork` over the rest of the batch.  A member that `uuid.Parse`
rejects is skipped. -/
def doWorkLoop (parse : String → Option UUID) (now : ℤ) : List Z → Prog Unit
  | [] => return ()
  | item :: rest =>
    if item.score > now then do
      let _ ← RedisClient.scheduleBatch (item :: rest)
      return ()
    else
      match item.member.uuid? parse with
      | none => doWorkLoop parse now rest
      | some id => do
        match ← call (.offer ⟨id⟩) with
        | .sent => doWorkLoop parse now rest
        | .done => return ()
        | .full =>
          let backoff := Time.addSeconds (Time.ofUnix item.score) 2
          let _ ← RedisClient.schedule item.member backoff
          doWorkLoop parse now rest

def doWork (parse : String → Option UUID) (batchSize : ℕ) : Prog Unit := do
  let now ← call .timeNow
  match ← RedisClient.popDue batchSize with
  | .error _ => return ()
  | .ok items => doWorkLoop parse now.unix items

theorem only_doWork (S : Cmd → Prop) (hnow : S .timeNow) (hctx : S .ctxDone)
    (hpop : ∀ n, S (.redis (.zPopMin n))) (hadd : ∀ items, S (.redis (.zAdd items)))
    (hoffer : ∀ job, S (.offer job)) (parse : String → Option UUID) (batchSize : ℕ) :
    (doWork parse batchSize).Only S := by
  have hloop : ∀ now items, (doWorkLoop parse now items).Only S := by
    intro now items
    induction items with
    | nil => trivial
    | cons item rest ih =>
      rw [doWorkLoop]
      split
      · exact (RedisClient.only_retry_call S (hadd _) hctx 3).bind fun _ => trivial
      · split
        · exact ih
        · refine ⟨hoffer _, fun o => ?_⟩
          cases o with
          | sent => exact ih
          | done => trivial
          | full => exact (RedisClient.only_retry_call S (hadd _) hctx 3).bind fun _ => ih
  refine ⟨hnow, fun now => (RedisClient.only_retry_call S (hpop _) hctx 3).bind fun x => ?_⟩
  rcases x with err | items
  · trivial
  · exact hloop _ items

end Scheduler

end Sofon
