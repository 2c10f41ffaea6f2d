import Ros2Zephyr.Admission.Coverage
import Ros2Zephyr.Admission.WifiStack
import Ros2Zephyr.Allocator.Accounting
import Ros2Zephyr.Allocator.Pools
import Ros2Zephyr.Control.Restart
import Ros2Zephyr.Control.RuntimeLog
import Ros2Zephyr.Control.Schedule
import Ros2Zephyr.Control.Stop
import Ros2Zephyr.Control.TimingTool
import Ros2Zephyr.Deployment.HeaderNames
import Ros2Zephyr.Deployment.Literals
import Ros2Zephyr.Deployment.Members
import Ros2Zephyr.Deployment.Realises
import Ros2Zephyr.Deployment.Session
import Ros2Zephyr.FreeList.Pop
import Ros2Zephyr.Logging.Buffer
import Ros2Zephyr.Loopback.Capture
import Ros2Zephyr.Rclc.Executor
import Ros2Zephyr.Resources.MemoryMap
import Ros2Zephyr.Resources.Toolchain
import Ros2Zephyr.Resources.Usage
import Ros2Zephyr.Sync.Condvar
import Ros2Zephyr.WaitSet.FastPath
