/-!
The metrics of the read path: seven counters and one sample of durations.
-/

namespace ClipFeed.Cache

inductive Metric where
  | hit
  | miss
  | lockAcquired
  | lockContended
  | fallback
  | error
  | evict
  | compute
  deriving DecidableEq, Repr

namespace Metric

def all : List Metric :=
  [.hit, .miss, .lockAcquired, .lockContended, .fallback, .error, .evict, .compute]

def shortName : Metric → String
  | .hit => "cache_hit_total"
  | .miss => "cache_miss_total"
  | .lockAcquired => "cache_lock_acquired_total"
  | .lockContended => "cache_lock_contended_total"
  | .fallback => "cache_fallback_total"
  | .error => "cache_error_total"
  | .evict => "cache_evict_total"
  | .compute => "store_compute_ms"

def name (m : Metric) : String :=
  "vidfeed_" ++ m.shortName

def kind : Metric → String
  | .compute => "histogram"
  | _ => "counter"

def unit : Metric → String
  | .compute => "milliseconds"
  | _ => "count"

def description : Metric → String
  | .hit => "Cache lookups answered from the cache, including hits found while polling."
  | .miss => "Cache lookups that found no usable entry."
  | .lockAcquired => "Backfill locks acquired after a miss."
  | .lockContended => "Misses that found another caller already holding the backfill lock."
  | .fallback =>
    "Store reads made without the lock after polling ran out or the backend failed."
  | .error => "Cache operations that failed, timed out or held undecodable payloads."
  | .evict => "Entries evicted by mutation hooks."
  | .compute => "Latency of store reads made on behalf of the cache gateway."

end Metric

end ClipFeed.Cache
