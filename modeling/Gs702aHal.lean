import Gs702aHal.Lib.KeyedVector
import Gs702aHal.Lib.StepRun
import Gs702aHal.Camera.Subscriptions
import Gs702aHal.Camera.RefCountRace
import Gs702aHal.Camera.BufferRefCount
import Gs702aHal.Camera.Rollback
import Gs702aHal.Camera.RollbackHooks
import Gs702aHal.Camera.SendCommand
import Gs702aHal.Camera.MessageQueue
import Gs702aHal.Camera.FillBufferDone
import Gs702aHal.Camera.PreviewRing
import Gs702aHal.Camera.ResizeFlush
import Gs702aHal.Camera.VceSync
import Gs702aHal.Camera.FaceResults
import Gs702aHal.Camera.Autofocus
import Gs702aHal.Camera.CaptureEnd
import Gs702aHal.Camera.Capabilities
import Gs702aHal.Camera.SetParameters
import Gs702aHal.Camera.SetParametersAtomic
import Gs702aHal.Camera.PreviewBuffers
import Gs702aHal.Camera.WindowBuffers
import Gs702aHal.Camera.Zoom
import Gs702aHal.Camera.FrameLayout
import Gs702aHal.Camera.SlotBounds
import Gs702aHal.Camera.VideoMemory
import Gs702aHal.Camera.RecordingFrames
import Gs702aHal.Camera.MemoryManager
import Gs702aHal.Camera.CameraArea
import Gs702aHal.Camera.VceEvents
import Gs702aHal.Camera.VceFatal
import Gs702aHal.Camera.VceEncode
import Gs702aHal.Camera.VceEncodeRuns
import Gs702aHal.Camera.HardwareResize
import Gs702aHal.Camera.Exif
import Gs702aHal.Camera.Settings3A
import Gs702aHal.Camera.JpegEncodes
import Gs702aHal.Camera.CropArea
import Gs702aHal.Camera.FpsRange
import Gs702aHal.Camera.TouchFocus
import Gs702aHal.Camera.WindowCleanup
import Gs702aHal.Camera.EventSync
import Gs702aHal.Camera.SmoothZoom
import Gs702aHal.Camera.ConfigResolutions
import Gs702aHal.Camera.ResizeAccess
import Gs702aHal.Camera.ResizeConvex
import Gs702aHal.Camera.ChromaShift
import Gs702aHal.Camera.Converters
import Gs702aHal.Camera.Nv12Neon
import Gs702aHal.Camera.JpegDestination
import Gs702aHal.Camera.JpegScanlines
import Gs702aHal.Display.DisplayParameters
import Gs702aHal.Display.Overlay
import Gs702aHal.Display.OverlayGeometry
import Gs702aHal.Display.OutputSelection
import Gs702aHal.Release.ItemPermissions
import Gs702aHal.Sensor.InputEventReader
import Gs702aHal.Sensor.AccelerationSensor
import Gs702aHal.Sensor.PollEvents
import Gs702aHal.Camera.Semaphore
import Gs702aHal.Camera.ExifRational
import Gs702aHal.Camera.ExifTable
import Gs702aHal.Camera.GpsCoordinate
import Gs702aHal.Camera.ZoomRectangle
import Gs702aHal.Camera.VceTables
import Gs702aHal.Lib.Portions
import Gs702aHal.Lib.Octets
import Gs702aHal.Lib.Exchange
import Gs702aHal.Bluetooth.Hci
import Gs702aHal.Bluetooth.Vendor
import Gs702aHal.Bluetooth.RtkConfig
import Gs702aHal.Bluetooth.RtkHost
import Gs702aHal.Bluetooth.RtkDownload
import Gs702aHal.Bluetooth.BrcmHost
import Gs702aHal.Bluetooth.BrcmPatch
import Gs702aHal.Lib.Rendezvous
import Gs702aHal.Camera.WorkerThreads
import Gs702aHal.Camera.FramerateCap
import Gs702aHal.Lib.LinkedList
import Gs702aHal.Camera.HeapTracker
import Gs702aHal.Camera.HeapVerdicts
import Gs702aHal.Camera.HeapAccount
import Gs702aHal.Camera.HeapLeaks
import Gs702aHal.Lib.FileTree
import Gs702aHal.Release.FullPackage
import Gs702aHal.Release.Installation
import Gs702aHal.Release.WordWrap
