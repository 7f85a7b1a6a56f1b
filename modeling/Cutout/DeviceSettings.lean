import Cutout.Wire

/-! Setting identities and typed setting values shared by the configuration
codecs and the settings sessions. -/

namespace Cutout.Protocols

/-- Stable semantic identity, independent of protocol fields. -/
inductive SettingId where
  | headlight | highBeam | tiltbackSpeed | pwmTiltback | pedalHardness | displayBrightness | displayUnits
  | beeperVolumePercent | dynamicAssist | pedalDipCompensation | lateralTiltLimit | voltageCorrection
  | chargeLimitDiagnostic | highSpeedMode | lowBatteryMode | transportMode | speedAlarmThreshold | pedalAngle
  | ridingPreset | brakeOverpressureAlarm | pedalMode | rollAngleMode | speedAlarmMode | maximumSpeed
  | beeperVolumeLevel | lightingPattern | accelerationAssist | taillight | autoShutdownRemaining
  | powerOffDelay | pushbackDutyAngle | pushbackDutySpeed | pushbackReturnSpeed | pushbackDutyBeepEnabled
  | pushbackPersistentFatalError | pushbackHighVoltageAngle | pushbackHighVoltageSpeed
  | pushbackLowVoltageAngle | pushbackLowVoltageSpeed | hapticsDutyFrequency | hapticsDutyStrength
  | hapticsErrorFrequency | hapticsErrorStrength | hapticsVibrateFrequency | hapticsVibrateStrength
  | hapticsDutySolidOffset | hapticsCurrentThreshold | hapticsMinStrength | hapticsMaxStrengthSpeed
  | hapticsStrengthCurvature | remoteReceiverType | remoteInputDeadband | lightingOn | lightingHeadlightsOn
  | lightingHeadlightsTransition | lightingDirectionTransition | lightingLightsOffWhenLifted
  | lightingStatusOnFrontWhenLifted | lightingFrontMode | lightingFrontBrightness | lightingFrontColor1
  | lightingFrontColor2 | lightingFrontSpeed | lightingRearMode | lightingRearBrightness | lightingRearColor1
  | lightingRearColor2 | lightingRearSpeed | lightingHeadlightsMode | lightingHeadlightsBrightness
  | lightingHeadlightsColor1 | lightingHeadlightsColor2 | lightingHeadlightsSpeed | lightingTaillightsMode
  | lightingTaillightsBrightness | lightingTaillightsColor1 | lightingTaillightsColor2
  | lightingTaillightsSpeed | lightingStatusBrightnessHeadlightsOff | lightingStatusBrightnessHeadlightsOn
  | lightingStatusShowSensorsWhileRunning | lightingStatusMotorUtilizationThreshold
  | lightingStatusRedBarPercentage | lightingStatusIdleTimeout | lightingStatusIdleMode
  | lightingStatusIdleBrightness | lightingStatusIdleColor1 | lightingStatusIdleColor2
  | lightingStatusIdleSpeed | packageDisabled | pushbackHv | pushbackLv | sensorsAdcchannel1
  | sensorsAdcchannel2 | sensorsSwapFootpadAdcs | sensorsFootFaultBeepEnabled | hardwareBeeperEnabled
  | lightingHardwareMode | lightingHardwarePin | lightingHardwarePinConfig | lightingHardwareStatusOrder
  | lightingHardwareStatusCount | lightingHardwareStatusColorOrder | lightingHardwareStatusReverse
  | lightingHardwareFrontOrder | lightingHardwareFrontCount | lightingHardwareFrontColorOrder
  | lightingHardwareFrontReverse | lightingHardwareRearOrder | lightingHardwareRearCount
  | lightingHardwareRearColorOrder | lightingHardwareRearReverse | bmsEnabled | bmsCellLvThreshold
  | bmsCellHvThreshold | bmsCellBalanceThreshold | bmsCellHtThreshold | bmsCellLtThreshold | bmsBmsHtThreshold
  | motorDriveCurrentLimit | motorBrakingCurrentLimit | batteryCurrentOutLimit | batteryCurrentInLimit
  | absoluteMotorCurrentLimit | inputVoltageMinimum | inputVoltageMaximum | batteryCutbackStart
  | batteryCutbackEnd | regenerativeBatteryCutbackStart | regenerativeBatteryCutbackEnd
  | fetTemperatureCutbackStart | fetTemperatureCutbackEnd | motorTemperatureCutbackStart
  | motorTemperatureCutbackEnd | motorPowerOutLimit | regenerativeMotorPowerLimit | motorDriveCurrentLimitScale
  | motorBrakingCurrentLimitScale | motorPoleCount | motorGearRatio | wheelDiameter | batteryChemistry
  | batterySeriesCellCount | batteryCapacity | bmsType | bmsLimitMode | bmsTemperatureLimitingEnabled
  | bmsSocLimitingEnabled | bmsMinimumCellVoltageLimitingEnabled | bmsMaximumCellVoltageLimitingEnabled
  | bmsTemperatureLimitStart | bmsTemperatureLimitEnd | bmsSocLimitStart | bmsSocLimitEnd
  | bmsCellMinimumVoltageLimitStart | bmsCellMinimumVoltageLimitEnd | bmsCellMaximumVoltageLimitStart
  | bmsCellMaximumVoltageLimitEnd | bmsCanForwardMode | controllerId | commandTimeout
  | commandTimeoutBrakeCurrent | canStatusRate1 | canStatusRate2 | canBaudRate | canMode | applicationToUse
  | killSwitchMode | ppmControlMode | ppmHysteresis | ppmPulseStart | ppmPulseEnd | ppmPulseCenter
  | ppmSafeStart | ppmRampTimePositive | ppmRampTimeNegative | adcControlMode | adcHysteresis | adcVoltageStart
  | adcVoltageEnd | adcVoltageMinimum | adcVoltageMaximum | adcSafeStart | adcRampTimePositive
  | adcRampTimeNegative | nunchukControlMode | nunchukHysteresis | nunchukRampTimePositive
  | nunchukRampTimeNegative | imuType | imuMode | imuFilter | imuSampleRate | imuUseMagnetometer | chargeMode
  deriving Repr, DecidableEq

inductive DeviceSettingValue where
  | boolean (value : Bool)
  | number (value : Int)
  | choice (value : Nat)
  | disabled
  deriving Repr, DecidableEq

end Cutout.Protocols
