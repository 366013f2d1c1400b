import OrderSheet.Text.Names.Run

/-!
# Names of syllables and presentation forms

The characters from U+2E80 to U+1005D.
-/

namespace OrderSheet.Text

def syllableNames : List NameRun := [
  ⟨0x2E80, ["CJK RADICAL REPEAT,bCLIFF,bSECOND ONE,cTWO,cTHREE,bPERSON,bBOX,bTABLE,bKNIFE ONE",
    "cTWO,bDIVINATION,bSEAL,bSMALL ONE,cTWO,bLAME ONE,cTWO,cTHREE,cFOUR,bSNAKE,bTHREAD",
    "bSNOUT ONE,cTWO,bHEART ONE,cTWO,bHAND,bRAP,,bCHOKE,bSUN,bMOON,bDEATH,bMOTHER,bCIVILIAN",
    "bWATER ONE,cTWO,bFIRE,bPAW ONE,cTWO,bSIMPLIFIED HALF TREE TRUNK,bCOW,bDOG,bJADE",
    "bBOLT OF CLOTH,bEYE,bSPIRIT ONE,cTWO,bBAMBOO,bSILK,bC-SIMPLIFIEDa,bNET ONE,cTWO,cTHREE",
    "cFOUR,bMESH,bSHEEP,bRAM,bEWE,bOLD,bBRUSH ONE,cTWO,bMEAT,bMORTAR,bGRASS ONE,cTWO,cTHREE",
    "bTIGER,bCLOTHES,bWEST ONE,cTWO,bC-SIMPLIFIED SEE,bSIMPLIFIED HORN,bHORN",
    "bC-SIMPLIFIED SPEECH,cSHELL,bFOOT,bC-SIMPLIFIED CART,bSIMPLIFIED WALK,bWALK ONE,cTWO,bCITY",
    "bC-SIMPLIFIED GOLD,bLONG ONE,cTWO,bC-SIMPLIFIED LONG,cGATE,bMOUND ONE,cTWO,bRAIN,bBLUE",
    "bC-SIMPLIFIED TANNED LEATHER,cLEAF,cWIND,cFLY,bEAT ONE,cTWO,cTHREE,bC-SIMPLIFIED EAT,bHEAD",
    "bC-SIMPLIFIED HORSE,bBONE,bGHOST,bC-SIMPLIFIED FISH,cBIRD,cSALT,bSIMPLIFIED WHEAT,cYELLOW",
    "bC-SIMPLIFIED FROG,bJ-SIMPLIFIED EVEN,bC-SIMPLIFIEDa,bJ-SIMPLIFIED TOOTH,bC-SIMPLIFIEDa",
    "bJ-SIMPLIFIED DRAGON,bC-SIMPLIFIEDa,bTURTLE,bJ-SIMPLIFIEDa,bC-SIMPLIFIEDa"]⟩,
  ⟨0x2F00, ["KANGXI RADICAL ONE,bLINE,bDOT,bSLASH,bSECOND,bHOOK,bTWO,bLID,bMAN,bLEGS,bENTER",
    "bEIGHT,bDOWN BOX,bCOVER,bICE,bTABLE,bOPEN BOX,bKNIFE,bPOWER,bWRAP,bSPOON,bRIGHT OPEN BOX",
    "bHIDING ENCLOSURE,bTEN,bDIVINATION,bSEAL,bCLIFF,bPRIVATE,bAGAIN,bMOUTH,bENCLOSURE,bEARTH",
    "bSCHOLAR,bGO,cSLOWLY,bEVENING,bBIG,bWOMAN,bCHILD,bROOF,bINCH,bSMALL,bLAME,bCORPSE,bSPROUT",
    "bMOUNTAIN,bRIVER,bWORK,bONESELF,bTURBAN,bDRY,bSHORT THREAD,bDOTTED CLIFF,bLONG STRIDE",
    "bTWO HANDS,bSHOOT,bBOW,bSNOUT,bBRISTLE,bSTEP,bHEART,bHALBERD,bDOOR,bHAND,bBRANCH,bRAP",
    "bSCRIPT,bDIPPER,bAXE,bSQUARE,bNOT,bSUN,bSAY,bMOON,bTREE,bLACK,bSTOP,bDEATH,bWEAPON,bDO NOT",
    "bCOMPARE,bFUR,bCLAN,bSTEAM,bWATER,bFIRE,bCLAW,bFATHER,bDOUBLE X,bHALF TREE TRUNK,bSLICE",
    "bFANG,bCOW,bDOG,bPROFOUND,bJADE,bMELON,bTILE,bSWEET,bLIFE,bUSE,bFIELD,bBOLT OF CLOTH",
    "bSICKNESS,bDOTTED TENT,bWHITE,bSKIN,bDISH,bEYE,bSPEAR,bARROW,bSTONE,bSPIRIT,bTRACK,bGRAIN",
    "bCAVE,bSTAND,bBAMBOO,bRICE,bSILK,bJAR,bNET,bSHEEP,bFEATHER,bOLD,bAND,bPLOW,bEAR,bBRUSH",
    "bMEAT,bMINISTER,bSELF,bARRIVE,bMORTAR,bTONGUE,bOPPOSE,bBOAT,bSTOPPING,bCOLOR,bGRASS,bTIGER",
    "bINSECT,bBLOOD,bWALK ENCLOSURE,bCLOTHES,bWEST,bSEE,bHORN,bSPEECH,bVALLEY,bBEAN,bPIG,bBADGER",
    "bSHELL,bRED,bRUN,bFOOT,bBODY,bCART,bBITTER,bMORNING,bWALK,bCITY,bWINE,bDISTINGUISH,bVILLAGE",
    "bGOLD,bLONG,bGATE,bMOUND,bSLAVE,bSHORT TAILED BIRD,bRAIN,bBLUE,bWRONG,bFACE,bLEATHER",
    "bTANNEDa,bLEEK,bSOUND,bLEAF,bWIND,bFLY,bEAT,bHEAD,bFRAGRANT,bHORSE,bBONE,bTALL,bHAIR,bFIGHT",
    "bSACRIFICIAL WINE,bCAULDRON,bGHOST,bFISH,bBIRD,bSALT,bDEER,bWHEAT,bHEMP,bYELLOW,bMILLET",
    "bBLACK,bEMBROIDERY,bFROG,bTRIPOD,bDRUM,bRAT,bNOSE,bEVEN,bTOOTH,bDRAGON,bTURTLE,bFLUTE"]⟩,
  ⟨0x2FF0, ["IDEOGRAPHIC DESCRIPTION CHARACTER LEFT TO RIGHT,cABOVE TO BELOW",
    "cLEFT TO MIDDLE AND RIGHT,cABOVE TO MIDDLE AND BELOW,cFULL SURROUND,cSURROUND FROM ABOVE",
    "eBELOW,eLEFT,eUPPERa,fRIGHT,eLOWER LEFT,cOVERLAID,,,,,aSPACE,aCOMMA,aFULL STOP,DITTO MARK",
    "JAPANESE INDUSTRIAL STANDARD SYMBOL,IDEOGRAPHIC ITERATION MARK,aCLOSINGa,aNUMBER ZERO",
    "LEFT ANGLE BRACKET,RIGHTb,LEFT DOUBLEb,RIGHTc,LEFT CORNERa,RIGHTb,LEFT WHITEb,RIGHTc",
    "LEFT BLACK LENTICULARa,RIGHTc,POSTAL MARK,GETAa,LEFT TORTOISE SHELL BRACKET,RIGHTc",
    "LEFT WHITE LENTICULARa,RIGHTc,LEFT WHITE TORTOISE SHELLa,RIGHTd,LEFT WHITE SQUAREa,RIGHTc",
    "WAVE DASH,REVERSED DOUBLE PRIME QUOTATION MARK,DOUBLE PRIME QUOTATION MARK,LOWd",
    "POSTAL MARK FACE,HANGZHOU NUMERAL ONE,bTWO,bTHREE,bFOUR,bFIVE,bSIX,bSEVEN,bEIGHT,bNINE",
    "IDEOGRAPHIC LEVEL TONE MARK,aRISINGb,aDEPARTINGb,aENTERINGb,HANGUL SINGLE DOTb,aDOUBLEc",
    "WAVY DASH,VERTICAL KANA REPEAT MARK,cWITH VOICED SOUNDa,cMARK UPPER HALF",
    "cWITH VOICED SOUNDc,cMARK LOWERa,CIRCLED POSTAL MARK",
    "IDEOGRAPHIC TELEGRAPH LINE FEED SEPARATOR SYMBOL,HANGZHOU NUMERAL TEN,bTWENTY,bTHIRTY",
    "VERTICAL IDEOGRAPHIC ITERATION MARK,MASUa,PART ALTERNATIONa,IDEOGRAPHIC VARIATION INDICATOR",
    "aHALF FILL SPACE,,HIRAGANA LETTER SMALL A,bA,bSMALL I,bI,bSMALL U,bU,bSMALL E,bE,bSMALL O",
    "bO,bKA,bGA,bKI,bGI,bKU,bGU,bKE,bGE,bKO,bGO,bSA,bZA,bSI,bZI,bSU,bZU,bSE,bZE,bSO,bZO,bTA,bDA",
    "bTI,bDI,bSMALL TU,bTU,bDU,bTE,bDE,bTO,bDO,bNA,bNI,bNU,bNE,bNO,bHA,bBA,bPA,bHI,bBI,bPI,bHU",
    "bBU,bPU,bHE,bBE,bPE,bHO,bBO,bPO,bMA,bMI,bMU,bME,bMO,bSMALL YA,bYA,bSMALL YU,bYU,bSMALL YO",
    "bYO,bRA,bRI,bRU,bRE,bRO,bSMALL WA,bWA,bWI,bWE,bWO,bN,bVU,bSMALL KA,cKE,,",
    "COMBINING KATAKANA-HIRAGANA VOICED SOUND MARK,bSEMI-VOICEDb,KATAKANA-HIRAGANA VOICEDb",
    "aSEMI-VOICEDb,HIRAGANA ITERATIONa,aVOICEDb,aDIGRAPH YORI,KATAKANA-HIRAGANA DOUBLE HYPHEN",
    "KATAKANA LETTER SMALL A,bA,bSMALL I,bI,bSMALL U,bU,bSMALL E,bE,bSMALL O,bO,bKA,bGA,bKI,bGI",
    "bKU,bGU,bKE,bGE,bKO,bGO,bSA,bZA,bSI,bZI,bSU,bZU,bSE,bZE,bSO,bZO,bTA,bDA,bTI,bDI,bSMALL TU",
    "bTU,bDU,bTE,bDE,bTO,bDO,bNA,bNI,bNU,bNE,bNO,bHA,bBA,bPA,bHI,bBI,bPI,bHU,bBU,bPU,bHE,bBE,bPE",
    "bHO,bBO,bPO,bMA,bMI,bMU,bME,bMO,bSMALL YA,bYA,bSMALL YU,bYU,bSMALL YO,bYO,bRA,bRI,bRU,bRE",
    "bRO,bSMALL WA,bWA,bWI,bWE,bWO,bN,bVU,bSMALL KA,cKE,bVA,bVI,bVE,bVO,aMIDDLE DOT",
    "KATAKANA-HIRAGANA PROLONGED SOUND MARK,KATAKANA ITERATIONa,aVOICEDb,aDIGRAPH KOTO,,,,,",
    "BOPOMOFO LETTER B,bP,bM,bF,bD,bT,bN,bL,bG,bK,bH,bJ,bQ,bX,bZH,bCH,bSH,bR,bZ,bC,bS,bA,bO,bE",
    "bEH,bAI,bEI,bAU,bOU,bAN,bEN,bANG,bENG,bER,bI,bU,bIU,bV,bNG,bGN,bIH,bO WITH DOT ABOVE,bNN,",
    "HANGUL LETTER KIYEOK,bSSANGKIYEOK,bKIYEOK-SIOS,bNIEUN,bNIEUN-CIEUC,bNIEUN-HIEUH,bTIKEUT",
    "bSSANGTIKEUT,bRIEUL,bRIEUL-KIYEOK,bRIEUL-MIEUM,bRIEUL-PIEUP,bRIEUL-SIOS,bRIEUL-THIEUTH",
    "bRIEUL-PHIEUPH,bRIEUL-HIEUH,bMIEUM,bPIEUP,bSSANGPIEUP,bPIEUP-SIOS,bSIOS,bSSANGSIOS,bIEUNG",
    "bCIEUC,bSSANGCIEUC,bCHIEUCH,bKHIEUKH,bTHIEUTH,bPHIEUPH,bHIEUH,bA,bAE,bYA,bYAE,bEO,bE,bYEO",
    "bYE,bO,bWA,bWAE,bOE,bYO,bU,bWEO,bWE,bWI,bYU,bEU,bYI,bI,aFILLER,aLETTER SSANGNIEUN",
    "bNIEUN-TIKEUT,bNIEUN-SIOS,bNIEUN-PANSIOS,bRIEUL-KIYEOK-SIOS,bRIEUL-TIKEUT,bRIEUL-PIEUP-SIOS",
    "bRIEUL-PANSIOS,bRIEUL-YEORINHIEUH,bMIEUM-PIEUP,bMIEUM-SIOS,bMIEUM-PANSIOS,bKAPYEOUNMIEUM",
    "bPIEUP-KIYEOK,bPIEUP-TIKEUT,bPIEUP-SIOS-KIYEOK,bPIEUP-SIOS-TIKEUT,bPIEUP-CIEUC",
    "bPIEUP-THIEUTH,bKAPYEOUNPIEUP,bKAPYEOUNSSANGPIEUP,bSIOS-KIYEOK,bSIOS-NIEUN,bSIOS-TIKEUT",
    "bSIOS-PIEUP,bSIOS-CIEUC,bPANSIOS,bSSANGIEUNG,bYESIEUNG,bYESIEUNG-SIOS,bYESIEUNG-PANSIOS",
    "bKAPYEOUNPHIEUPH,bSSANGHIEUH,bYEORINHIEUH,bYO-YA,bYO-YAE,bYO-I,bYU-YEO,bYU-YE,bYU-I,bARAEA",
    "bARAEAE,,IDEOGRAPHIC ANNOTATION LINKING MARK,bREVERSEa,bONEa,bTWOa,bTHREEa,bFOURa,bTOPa",
    "bMIDDLEa,bBOTTOMa,bFIRSTa,bSECONDa,bTHIRDa,bFOURTHa,bHEAVENa,bEARTHa,bMANa",
    "BOPOMOFO LETTER BU,bZI,bJI,bGU,bEE,bENN,bOO,bONN,bIR,bANN,bINN,bUNN,bIM,bNGG,bAINN,bAUNN",
    "bAM,bOM,bONG,bINNN,aFINAL LETTER P,cT,cK,cH,aLETTER GH,bLH,bZY,aFINAL LETTER G,aLETTER GW",
    "bKW,bOE,bAH,CJK STROKE T,bWG,bXG,bBXG,bSW,bHZZ,bHZG,bHP,bHZWG,bSZWG,bHZT,bHZZP,bHPWG,bHZW",
    "bHZZZ,bN,bH,bS,bP,bSP,bD,bHZ,bHG,bSZ,bSWZ,bST,bSG,bPD,bPZ,bTN,bSZZ,bSWG,bHXWG,bHZZZG,bPG,bQ"]⟩,
  ⟨0x31F0, ["KATAKANA LETTER SMALL KU,cSI,cSU,cTO,cNU,cHA,cHI,cHU,cHE,cHO,cMU,cRA,cRI,cRU,cRE",
    "cRO,PARENTHESIZED HANGUL KIYEOK,bNIEUN,bTIKEUT,bRIEUL,bMIEUM,bPIEUP,bSIOS,bIEUNG,bCIEUC",
    "bCHIEUCH,bKHIEUKH,bTHIEUTH,bPHIEUPH,bHIEUH,bKIYEOK A,bNIEUNa,bTIKEUTa,bRIEULa,bMIEUMa",
    "bPIEUPa,bSIOSa,bIEUNGa,bCIEUCa,bCHIEUCHa,bKHIEUKHa,bTHIEUTHa,bPHIEUPHa,bHIEUHa,bCIEUC U",
    "aKOREAN CHARACTER OJEON,cO HU,,aIDEOGRAPH ONE,bTWO,bTHREE,bFOUR,bFIVE,bSIX,bSEVEN,bEIGHT",
    "bNINE,bTEN,bMOON,bFIRE,bWATER,bWOOD,bMETAL,bEARTH,bSUN,bSTOCK,bHAVE,bSOCIETY,bNAME,bSPECIAL",
    "bFINANCIAL,bCONGRATULATION,bLABOR,bREPRESENT,bCALL,bSTUDY,bSUPERVISE,bENTERPRISE,bRESOURCE",
    "bALLIANCE,bFESTIVAL,bREST,bSELF,bREACH,CIRCLED IDEOGRAPH QUESTION,bKINDERGARTEN,bSCHOOL",
    "bKOTO,aNUMBER TEN ON BLACK SQUARE,bTWENTYc,bTHIRTYc,bFORTYc,bFIFTYc,bSIXTYc,bSEVENTYc",
    "bEIGHTYc,PARTNERSHIP SIGN,CIRCLED NUMBER TWENTY ONE,cTWO,cTHREE,cFOUR,cFIVE,cSIX,cSEVEN",
    "cEIGHT,cNINE,bTHIRTY,cONE,cTWO,cTHREE,cFOUR,cFIVE,aHANGUL KIYEOK,bNIEUN,bTIKEUT,bRIEUL",
    "bMIEUM,bPIEUP,bSIOS,bIEUNG,bCIEUC,bCHIEUCH,bKHIEUKH,bTHIEUTH,bPHIEUPH,bHIEUH,bKIYEOK A",
    "bNIEUNa,bTIKEUTa,bRIEULa,bMIEUMa,bPIEUPa,bSIOSa,bIEUNGa,bCIEUCa,bCHIEUCHa,bKHIEUKHa",
    "bTHIEUTHa,bPHIEUPHa,bHIEUHa,aKOREAN CHARACTER CHAMKO,cJUEUI,aHANGUL IEUNG U",
    "KOREAN STANDARD SYMBOL,CIRCLED IDEOGRAPH ONE,bTWO,bTHREE,bFOUR,bFIVE,bSIX,bSEVEN,bEIGHT",
    "bNINE,bTEN,bMOON,bFIRE,bWATER,bWOOD,bMETAL,bEARTH,bSUN,bSTOCK,bHAVE,bSOCIETY,bNAME,bSPECIAL",
    "bFINANCIAL,bCONGRATULATION,bLABOR,bSECRET,bMALE,bFEMALE,bSUITABLE,bEXCELLENT,bPRINT",
    "bATTENTION,bITEM,bREST,bCOPY,bCORRECT,bHIGH,bCENTRE,bLOW,bLEFT,bRIGHT,bMEDICINE,bRELIGION",
    "bSTUDY,bSUPERVISE,bENTERPRISE,bRESOURCE,bALLIANCE,bNIGHT,aNUMBER THIRTY SIX,cSEVEN,cEIGHT",
    "cNINE,bFORTY,cONE,cTWO,cTHREE,cFOUR,cFIVE,cSIX,cSEVEN,cEIGHT,cNINE,bFIFTY",
    "IDEOGRAPHIC TELEGRAPH SYMBOL FOR JANUARY,dFEBRUARY,dMARCH,dAPRIL,dMAY,dJUNE,dJULY,dAUGUST",
    "dSEPTEMBER,dOCTOBER,dNOVEMBER,dDECEMBER,SQUARE HG,aERG,aEV,LIMITED LIABILITY SIGN",
    "CIRCLED KATAKANA A,bI,bU,bE,bO,bKA,bKI,bKU,bKE,bKO,bSA,bSI,bSU,bSE,bSO,bTA,bTI,bTU,bTE,bTO",
    "bNA,bNI,bNU,bNE,bNO,bHA,bHI,bHU,bHE,bHO,bMA,bMI,bMU,bME,bMO,bYA,bYU,bYO,bRA,bRI,bRU,bRE,bRO",
    "bWA,bWI,bWE,bWO,SQUARE ERA NAME REIWA,aAPAATO,aARUHUA,aANPEA,aAARU,aININGU,aINTI,aUON",
    "aESUKUUDO,aEEKAA,aONSU,aOOMU,aKAIRI,aKARATTO,aKARORII,aGARON,aGANMA,aGIGA,aGINII,aKYURII",
    "aGIRUDAA,aKIRO,aKIROGURAMU,aKIROMEETORU,aKIROWATTO,aGURAMU,aGURAMUTON,aKURUZEIRO,aKUROONE",
    "aKEESU,aKORUNA,aKOOPO,aSAIKURU,aSANTIIMU,aSIRINGU,aSENTI,aSENTO,aDAASU,aDESI,aDORU,aTON",
    "aNANO,aNOTTO,aHAITU,aPAASENTO,aPAATU,aBAARERU,aPIASUTORU,aPIKURU,aPIKO,aBIRU,aHUARADDO",
    "aHUIITO,aBUSSYERU,aHURAN,aHEKUTAARU,aPESO,aPENIHI,aHERUTU,aPENSU,aPEEZI,aBEETA,aPOINTO",
    "aBORUTO,aHON,aPONDO,aHOORU,aHOON,aMAIKURO,aMAIRU,aMAHHA,aMARUKU,aMANSYON,aMIKURON,aMIRI",
    "aMIRIBAARU,aMEGA,aMEGATON,aMEETORU,aYAADO,aYAARU,aYUAN,aRITTORU,aRIRA,aRUPII,aRUUBURU,aREMU",
    "aRENTOGEN,aWATTO,IDEOGRAPHIC TELEGRAPH SYMBOL FOR HOUR ZERO,eONE,eTWO,eTHREE,eFOUR,eFIVE",
    "eSIX,eSEVEN,eEIGHT,eNINE,eTEN,eELEVEN,eTWELVE,eTHIRTEEN,eFOURTEEN,eFIFTEEN,eSIXTEEN",
    "eSEVENTEEN,eEIGHTEEN,eNINETEEN,eTWENTY,eTWENTY-ONE,eTWENTY-TWO,eTWENTY-THREE,eTWENTY-FOUR",
    "SQUARE HPA,aDA,aAU,aBAR,aOV,aPC,aDM,bSQUARED,bCUBED,aIU,aERA NAME HEISEI,cSYOUWA,cTAISYOU",
    "cMEIZI,aCORPORATION,aPA AMPS,aNA,aMU A,aMA,aKA,aKB,aMB,aGB,aCAL,aKCAL,aPF,aNF,aMU F,bG,aMG",
    "aKG,aHZ,aKHZ,aMHZ,aGHZ,aTHZ,aMU L,aML,aDL,aKL,aFM,aNM,aMU M,aMM,aCM,aKM,aMM SQUARED,aCMa",
    "aMa,aKMa,aMM CUBED,aCMa,aMa,aKMa,aM OVER S,dSQUARED,aPA,aKPA,aMPA,aGPA,aRAD,bOVER S",
    "dSQUARED,aPS,aNS,aMU S,aMS,aPV,aNV,aMU V,aMV,aKV,aMV MEGA,aPW,aNW,aMU W,aMW,aKW,aMW MEGA",
    "aK OHM,aMa,aAM,aBQ,aCC,aCD,aC OVER KG,aCO,aDB,aGY,aHA,aHP,aIN,aKK,aKM CAPITAL,aKT,aLM,aLN",
    "aLOG,aLX,aMB SMALL,aMIL,aMOL,aPH,aPM,aPPM,aPR,aSR,aSV,aWB,aV OVER M,aAb",
    "IDEOGRAPHIC TELEGRAPH SYMBOL FOR DAY ONE,eTWO,eTHREE,eFOUR,eFIVE,eSIX,eSEVEN,eEIGHT,eNINE",
    "eTEN,eELEVEN,eTWELVE,eTHIRTEEN,eFOURTEEN,eFIFTEEN,eSIXTEEN,eSEVENTEEN,eEIGHTEEN,eNINETEEN",
    "eTWENTY,eTWENTY-ONE,eTWENTY-TWO,eTWENTY-THREE,eTWENTY-FOUR,eTWENTY-FIVE,eTWENTY-SIX",
    "eTWENTY-SEVEN,eTWENTY-EIGHT,eTWENTY-NINE,eTHIRTY,eTHIRTY-ONE,SQUARE GAL"]⟩,
  ⟨0x4DC0, ["HEXAGRAM FOR THE CREATIVE HEAVEN,cRECEPTIVE EARTH,bDIFFICULTY AT THE BEGINNING",
    "bYOUTHFUL FOLLY,bWAITING,bCONFLICT,bTHE ARMY,bHOLDING TOGETHER,bSMALL TAMING,bTREADING",
    "bPEACE,bSTANDSTILL,bFELLOWSHIP,bGREAT POSSESSION,bMODESTY,bENTHUSIASM,bFOLLOWING",
    "bWORK ON THE DECAYED,bAPPROACH,bCONTEMPLATION,bBITING THROUGH,bGRACE,bSPLITTING APART",
    "bRETURN,bINNOCENCE,bGREAT TAMING,bMOUTH CORNERS,bGREAT PREPONDERANCE,bTHE ABYSMAL WATER",
    "cCLINGING FIRE,bINFLUENCE,bDURATION,bRETREAT,bGREAT POWER,bPROGRESS,bDARKENING OF THE LIGHT",
    "bTHE FAMILY,bOPPOSITION,bOBSTRUCTION,bDELIVERANCE,bDECREASE,bINCREASE,bBREAKTHROUGH",
    "bCOMING TO MEET,bGATHERING TOGETHER,bPUSHING UPWARD,bOPPRESSION,bTHE WELL,bREVOLUTION",
    "bTHE CAULDRON,cAROUSING THUNDER,cKEEPING STILL MOUNTAIN,bDEVELOPMENT,bTHE MARRYING MAIDEN",
    "bABUNDANCE,bTHE WANDERER,cGENTLE WIND,cJOYOUS LAKE,bDISPERSION,bLIMITATION,bINNER TRUTH",
    "bSMALL PREPONDERANCE,bAFTER COMPLETION,bBEFOREa"]⟩,
  ⟨0xA000, ["YI SYLLABLE IT,bIX,bI,bIP,bIET,bIEX,bIE,bIEP,bAT,bAX,bA,bAP,bUOX,bUO,bUOP,bOT,bOX",
    "bO,bOP,bEX,bE,bWU,bBIT,bBIX,bBI,bBIP,bBIET,bBIEX,bBIE,bBIEP,bBAT,bBAX,bBA,bBAP,bBUOX,bBUO",
    "bBUOP,bBOT,bBOX,bBO,bBOP,bBEX,bBE,bBEP,bBUT,bBUX,bBU,bBUP,bBURX,bBUR,bBYT,bBYX,bBY,bBYP",
    "bBYRX,bBYR,bPIT,bPIX,bPI,bPIP,bPIEX,bPIE,bPIEP,bPAT,bPAX,bPA,bPAP,bPUOX,bPUO,bPUOP,bPOT",
    "bPOX,bPO,bPOP,bPUT,bPUX,bPU,bPUP,bPURX,bPUR,bPYT,bPYX,bPY,bPYP,bPYRX,bPYR,bBBIT,bBBIX,bBBI",
    "bBBIP,bBBIET,bBBIEX,bBBIE,bBBIEP,bBBAT,bBBAX,bBBA,bBBAP,bBBUOX,bBBUO,bBBUOP,bBBOT,bBBOX",
    "bBBO,bBBOP,bBBEX,bBBE,bBBEP,bBBUT,bBBUX,bBBU,bBBUP,bBBURX,bBBUR,bBBYT,bBBYX,bBBY,bBBYP",
    "bNBIT,bNBIX,bNBI,bNBIP,bNBIEX,bNBIE,bNBIEP,bNBAT,bNBAX,bNBA,bNBAP,bNBOT,bNBOX,bNBO,bNBOP",
    "bNBUT,bNBUX,bNBU,bNBUP,bNBURX,bNBUR,bNBYT,bNBYX,bNBY,bNBYP,bNBYRX,bNBYR,bHMIT,bHMIX,bHMI",
    "bHMIP,bHMIEX,bHMIE,bHMIEP,bHMAT,bHMAX,bHMA,bHMAP,bHMUOX,bHMUO,bHMUOP,bHMOT,bHMOX,bHMO,bHMOP",
    "bHMUT,bHMUX,bHMU,bHMUP,bHMURX,bHMUR,bHMYX,bHMY,bHMYP,bHMYRX,bHMYR,bMIT,bMIX,bMI,bMIP,bMIEX",
    "bMIE,bMIEP,bMAT,bMAX,bMA,bMAP,bMUOT,bMUOX,bMUO,bMUOP,bMOT,bMOX,bMO,bMOP,bMEX,bME,bMUT,bMUX",
    "bMU,bMUP,bMURX,bMUR,bMYT,bMYX,bMY,bMYP,bFIT,bFIX,bFI,bFIP,bFAT,bFAX,bFA,bFAP,bFOX,bFO,bFOP",
    "bFUT,bFUX,bFU,bFUP,bFURX,bFUR,bFYT,bFYX,bFY,bFYP,bVIT,bVIX,bVI,bVIP,bVIET,bVIEX,bVIE,bVIEP",
    "bVAT,bVAX,bVA,bVAP,bVOT,bVOX,bVO,bVOP,bVEX,bVEP,bVUT,bVUX,bVU,bVUP,bVURX,bVUR,bVYT,bVYX,bVY",
    "bVYP,bVYRX,bVYR,bDIT,bDIX,bDI,bDIP,bDIEX,bDIE,bDIEP,bDAT,bDAX,bDA,bDAP,bDUOX,bDUO,bDOT,bDOX",
    "bDO,bDOP,bDEX,bDE,bDEP,bDUT,bDUX,bDU,bDUP,bDURX,bDUR,bTIT,bTIX,bTI,bTIP,bTIEX,bTIE,bTIEP",
    "bTAT,bTAX,bTA,bTAP,bTUOT,bTUOX,bTUO,bTUOP,bTOT,bTOX,bTO,bTOP,bTEX,bTE,bTEP,bTUT,bTUX,bTU",
    "bTUP,bTURX,bTUR,bDDIT,bDDIX,bDDI,bDDIP,bDDIEX,bDDIE,bDDIEP,bDDAT,bDDAX,bDDA,bDDAP,bDDUOX",
    "bDDUO,bDDUOP,bDDOT,bDDOX,bDDO,bDDOP,bDDEX,bDDE,bDDEP,bDDUT,bDDUX,bDDU,bDDUP,bDDURX,bDDUR",
    "bNDIT,bNDIX,bNDI,bNDIP,bNDIEX,bNDIE,bNDAT,bNDAX,bNDA,bNDAP,bNDOT,bNDOX,bNDO,bNDOP,bNDEX",
    "bNDE,bNDEP,bNDUT,bNDUX,bNDU,bNDUP,bNDURX,bNDUR,bHNIT,bHNIX,bHNI,bHNIP,bHNIET,bHNIEX,bHNIE",
    "bHNIEP,bHNAT,bHNAX,bHNA,bHNAP,bHNUOX,bHNUO,bHNOT,bHNOX,bHNOP,bHNEX,bHNE,bHNEP,bHNUT,bNIT",
    "bNIX,bNI,bNIP,bNIEX,bNIE,bNIEP,bNAX,bNA,bNAP,bNUOX,bNUO,bNUOP,bNOT,bNOX,bNO,bNOP,bNEX,bNE",
    "bNEP,bNUT,bNUX,bNU,bNUP,bNURX,bNUR,bHLIT,bHLIX,bHLI,bHLIP,bHLIEX,bHLIE,bHLIEP,bHLAT,bHLAX",
    "bHLA,bHLAP,bHLUOX,bHLUO,bHLUOP,bHLOX,bHLO,bHLOP,bHLEX,bHLE,bHLEP,bHLUT,bHLUX,bHLU,bHLUP",
    "bHLURX,bHLUR,bHLYT,bHLYX,bHLY,bHLYP,bHLYRX,bHLYR,bLIT,bLIX,bLI,bLIP,bLIET,bLIEX,bLIE,bLIEP",
    "bLAT,bLAX,bLA,bLAP,bLUOT,bLUOX,bLUO,bLUOP,bLOT,bLOX,bLO,bLOP,bLEX,bLE,bLEP,bLUT,bLUX,bLU",
    "bLUP,bLURX,bLUR,bLYT,bLYX,bLY,bLYP,bLYRX,bLYR,bGIT,bGIX,bGI,bGIP,bGIET,bGIEX,bGIE,bGIEP",
    "bGAT,bGAX,bGA,bGAP,bGUOT,bGUOX,bGUO,bGUOP,bGOT,bGOX,bGO,bGOP,bGET,bGEX,bGE,bGEP,bGUT,bGUX",
    "bGU,bGUP,bGURX,bGUR,bKIT,bKIX,bKI,bKIP,bKIEX,bKIE,bKIEP,bKAT,bKAX,bKA,bKAP,bKUOX,bKUO,bKUOP",
    "bKOT,bKOX,bKO,bKOP,bKET,bKEX,bKE,bKEP,bKUT,bKUX,bKU,bKUP,bKURX,bKUR,bGGIT,bGGIX,bGGI,bGGIEX",
    "bGGIE,bGGIEP,bGGAT,bGGAX,bGGA,bGGAP,bGGUOT,bGGUOX,bGGUO,bGGUOP,bGGOT,bGGOX,bGGO,bGGOP,bGGET",
    "bGGEX,bGGE,bGGEP,bGGUT,bGGUX,bGGU,bGGUP,bGGURX,bGGUR,bMGIEX,bMGIE,bMGAT,bMGAX,bMGA,bMGAP",
    "bMGUOX,bMGUO,bMGUOP,bMGOT,bMGOX,bMGO,bMGOP,bMGEX,bMGE,bMGEP,bMGUT,bMGUX,bMGU,bMGUP,bMGURX",
    "bMGUR,bHXIT,bHXIX,bHXI,bHXIP,bHXIET,bHXIEX,bHXIE,bHXIEP,bHXAT,bHXAX,bHXA,bHXAP,bHXUOT",
    "bHXUOX,bHXUO,bHXUOP,bHXOT,bHXOX,bHXO,bHXOP,bHXEX,bHXE,bHXEP,bNGIEX,bNGIE,bNGIEP,bNGAT,bNGAX",
    "bNGA,bNGAP,bNGUOT,bNGUOX,bNGUO,bNGOT,bNGOX,bNGO,bNGOP,bNGEX,bNGE,bNGEP,bHIT,bHIEX,bHIE,bHAT",
    "bHAX,bHA,bHAP,bHUOT,bHUOX,bHUO,bHUOP,bHOT,bHOX,bHO,bHOP,bHEX,bHE,bHEP,bWAT,bWAX,bWA,bWAP",
    "bWUOX,bWUO,bWUOP,bWOX,bWO,bWOP,bWEX,bWE,bWEP,bZIT,bZIX,bZI,bZIP,bZIEX,bZIE,bZIEP,bZAT,bZAX",
    "bZA,bZAP,bZUOX,bZUO,bZUOP,bZOT,bZOX,bZO,bZOP,bZEX,bZE,bZEP,bZUT,bZUX,bZU,bZUP,bZURX,bZUR",
    "bZYT,bZYX,bZY,bZYP,bZYRX,bZYR,bCIT,bCIX,bCI,bCIP,bCIET,bCIEX,bCIE,bCIEP,bCAT,bCAX,bCA,bCAP",
    "bCUOX,bCUO,bCUOP,bCOT,bCOX,bCO,bCOP,bCEX,bCE,bCEP,bCUT,bCUX,bCU,bCUP,bCURX,bCUR,bCYT,bCYX",
    "bCY,bCYP,bCYRX,bCYR,bZZIT,bZZIX,bZZI,bZZIP,bZZIET,bZZIEX,bZZIE,bZZIEP,bZZAT,bZZAX,bZZA",
    "bZZAP,bZZOX,bZZO,bZZOP,bZZEX,bZZE,bZZEP,bZZUX,bZZU,bZZUP,bZZURX,bZZUR,bZZYT,bZZYX,bZZY",
    "bZZYP,bZZYRX,bZZYR,bNZIT,bNZIX,bNZI,bNZIP,bNZIEX,bNZIE,bNZIEP,bNZAT,bNZAX,bNZA,bNZAP,bNZUOX",
    "bNZUO,bNZOX,bNZOP,bNZEX,bNZE,bNZUX,bNZU,bNZUP,bNZURX,bNZUR,bNZYT,bNZYX,bNZY,bNZYP,bNZYRX",
    "bNZYR,bSIT,bSIX,bSI,bSIP,bSIEX,bSIE,bSIEP,bSAT,bSAX,bSA,bSAP,bSUOX,bSUO,bSUOP,bSOT,bSOX,bSO",
    "bSOP,bSEX,bSE,bSEP,bSUT,bSUX,bSU,bSUP,bSURX,bSUR,bSYT,bSYX,bSY,bSYP,bSYRX,bSYR,bSSIT,bSSIX",
    "bSSI,bSSIP,bSSIEX,bSSIE,bSSIEP,bSSAT,bSSAX,bSSA,bSSAP,bSSOT,bSSOX,bSSO,bSSOP,bSSEX,bSSE",
    "bSSEP,bSSUT,bSSUX,bSSU,bSSUP,bSSYT,bSSYX,bSSY,bSSYP,bSSYRX,bSSYR,bZHAT,bZHAX,bZHA,bZHAP",
    "bZHUOX,bZHUO,bZHUOP,bZHOT,bZHOX,bZHO,bZHOP,bZHET,bZHEX,bZHE,bZHEP,bZHUT,bZHUX,bZHU,bZHUP",
    "bZHURX,bZHUR,bZHYT,bZHYX,bZHY,bZHYP,bZHYRX,bZHYR,bCHAT,bCHAX,bCHA,bCHAP,bCHUOT,bCHUOX,bCHUO",
    "bCHUOP,bCHOT,bCHOX,bCHO,bCHOP,bCHET,bCHEX,bCHE,bCHEP,bCHUX,bCHU,bCHUP,bCHURX,bCHUR,bCHYT",
    "bCHYX,bCHY,bCHYP,bCHYRX,bCHYR,bRRAX,bRRA,bRRUOX,bRRUO,bRROT,bRROX,bRRO,bRROP,bRRET,bRREX",
    "bRRE,bRREP,bRRUT,bRRUX,bRRU,bRRUP,bRRURX,bRRUR,bRRYT,bRRYX,bRRY,bRRYP,bRRYRX,bRRYR,bNRAT",
    "bNRAX,bNRA,bNRAP,bNROX,bNRO,bNROP,bNRET,bNREX,bNRE,bNREP,bNRUT,bNRUX,bNRU,bNRUP,bNRURX",
    "bNRUR,bNRYT,bNRYX,bNRY,bNRYP,bNRYRX,bNRYR,bSHAT,bSHAX,bSHA,bSHAP,bSHUOX,bSHUO,bSHUOP,bSHOT",
    "bSHOX,bSHO,bSHOP,bSHET,bSHEX,bSHE,bSHEP,bSHUT,bSHUX,bSHU,bSHUP,bSHURX,bSHUR,bSHYT,bSHYX",
    "bSHY,bSHYP,bSHYRX,bSHYR,bRAT,bRAX,bRA,bRAP,bRUOX,bRUO,bRUOP,bROT,bROX,bRO,bROP,bREX,bRE",
    "bREP,bRUT,bRUX,bRU,bRUP,bRURX,bRUR,bRYT,bRYX,bRY,bRYP,bRYRX,bRYR,bJIT,bJIX,bJI,bJIP,bJIET",
    "bJIEX,bJIE,bJIEP,bJUOT,bJUOX,bJUO,bJUOP,bJOT,bJOX,bJO,bJOP,bJUT,bJUX,bJU,bJUP,bJURX,bJUR",
    "bJYT,bJYX,bJY,bJYP,bJYRX,bJYR,bQIT,bQIX,bQI,bQIP,bQIET,bQIEX,bQIE,bQIEP,bQUOT,bQUOX,bQUO",
    "bQUOP,bQOT,bQOX,bQO,bQOP,bQUT,bQUX,bQU,bQUP,bQURX,bQUR,bQYT,bQYX,bQY,bQYP,bQYRX,bQYR,bJJIT",
    "bJJIX,bJJI,bJJIP,bJJIET,bJJIEX,bJJIE,bJJIEP,bJJUOX,bJJUO,bJJUOP,bJJOT,bJJOX,bJJO,bJJOP",
    "bJJUT,bJJUX,bJJU,bJJUP,bJJURX,bJJUR,bJJYT,bJJYX,bJJY,bJJYP,bNJIT,bNJIX,bNJI,bNJIP,bNJIET",
    "bNJIEX,bNJIE,bNJIEP,bNJUOX,bNJUO,bNJOT,bNJOX,bNJO,bNJOP,bNJUX,bNJU,bNJUP,bNJURX,bNJUR,bNJYT",
    "bNJYX,bNJY,bNJYP,bNJYRX,bNJYR,bNYIT,bNYIX,bNYI,bNYIP,bNYIET,bNYIEX,bNYIE,bNYIEP,bNYUOX",
    "bNYUO,bNYUOP,bNYOT,bNYOX,bNYO,bNYOP,bNYUT,bNYUX,bNYU,bNYUP,bXIT,bXIX,bXI,bXIP,bXIET,bXIEX",
    "bXIE,bXIEP,bXUOX,bXUO,bXOT,bXOX,bXO,bXOP,bXYT,bXYX,bXY,bXYP,bXYRX,bXYR,bYIT,bYIX,bYI,bYIP",
    "bYIET,bYIEX,bYIE,bYIEP,bYUOT,bYUOX,bYUO,bYUOP,bYOT,bYOX,bYO,bYOP,bYUT,bYUX,bYU,bYUP,bYURX",
    "bYUR,bYYT,bYYX,bYY,bYYP,bYYRX,bYYR,,,,aRADICAL QOT,bLI,bKIT,bNYIP,bCYP,bSSI,bGGOP,bGEP,bMI",
    "bHXIT,bLYR,bBBUT,bMOP,bYO,bPUT,bHXUO,bTAT,bGA,bZUP,bCYT,bDDUR,bBUR,bGGUO,bNYOP,bTU,bOP",
    "bJJUT,bZOT,bPYT,bHMO,bYIT,bVUR,bSHY,bVEP,bZA,bJO,bNZUP,bJJY,bGOT,bJJIE,bWO,bDU,bSHUR,bLIE",
    "bCY,bCUOP,bCIP,bHXOP,bSHAT,bZUR,bSHOP,bCHE,bZZIET,bNBIE,bKE,,,,,,,,,,LISU LETTER BA,bPA",
    "bPHA,bDA,bTA,bTHA,bGA,bKA,bKHA,bJA,bCA,bCHA,bDZA,bTSA,bTSHA,bMA,bNA,bLA,bSA,bZHA,bZA,bNGA",
    "bHA,bXA,bHHA,bFA,bWA,bSHA,bYA,bGHA,bA,bAE,bE,bEU,bI,bO,bU,bUE,bUH,bOE,bTONE MYA TI,cNA PO",
    "cMYA CYA,dBO,dNA,dJEU,aPUNCTUATION COMMA,bFULL STOP,VAI SYLLABLE EE,bEEN,bHEE,bWEE,bWEEN",
    "bPEE,bBHEE,bBEE,bMBEE,bKPEE,bMGBEE,bGBEE,bFEE,bVEE,bTEE,bTHEE,bDHEE,bDHHEE,bLEE,bREE,bDEE",
    "bNDEE,bSEE,bSHEE,bZEE,bZHEE,bCEE,bJEE,bNJEE,bYEE,bKEE,bNGGEE,bGEE,bMEE,bNEE,bNYEE,bI,bIN",
    "bHI,bHIN,bWI,bWIN,bPI,bBHI,bBI,bMBI,bKPI,bMGBI,bGBI,bFI,bVI,bTI,bTHI,bDHI,bDHHI,bLI,bRI,bDI",
    "bNDI,bSI,bSHI,bZI,bZHI,bCI,bJI,bNJI,bYI,bKI,bNGGI,bGI,bMI,bNI,bNYI,bA,bAN,bNGAN,bHA,bHAN",
    "bWA,bWAN,bPA,bBHA,bBA,bMBA,bKPA,bKPAN,bMGBA,bGBA,bFA,bVA,bTA,bTHA,bDHA,bDHHA,bLA,bRA,bDA",
    "bNDA,bSA,bSHA,bZA,bZHA,bCA,bJA,bNJA,bYA,bKA,bKAN,bNGGA,bGA,bMA,bNA,bNYA,bOO,bOON,bHOO,bWOO",
    "bWOON,bPOO,bBHOO,bBOO,bMBOO,bKPOO,bMGBOO,bGBOO,bFOO,bVOO,bTOO,bTHOO,bDHOO,bDHHOO,bLOO,bROO",
    "bDOO,bNDOO,bSOO,bSHOO,bZOO,bZHOO,bCOO,bJOO,bNJOO,bYOO,bKOO,bNGGOO,bGOO,bMOO,bNOO,bNYOO,bU",
    "bUN,bHU,bHUN,bWU,bWUN,bPU,bBHU,bBU,bMBU,bKPU,bMGBU,bGBU,bFU,bVU,bTU,bTHU,bDHU,bDHHU,bLU,bRU",
    "bDU,bNDU,bSU,bSHU,bZU,bZHU,bCU,bJU,bNJU,bYU,bKU,bNGGU,bGU,bMU,bNU,bNYU,bO,bON,bNGON,bHO",
    "bHON,bWO,bWON,bPO,bBHO,bBO,bMBO,bKPO,bMGBO,bGBO,bGBON,bFO,bVO,bTO,bTHO,bDHO,bDHHO,bLO,bRO",
    "bDO,bNDO,bSO,bSHO,bZO,bZHO,bCO,bJO,bNJO,bYO,bKO,bNGGO,bGO,bMO,bNO,bNYO,bE,bEN,bNGEN,bHE",
    "bHEN,bWE,bWEN,bPE,bBHE,bBE,bMBE,bKPE,bKPEN,bMGBE,bGBE,bGBEN,bFE,bVE,bTE,bTHE,bDHE,bDHHE,bLE",
    "bRE,bDE,bNDE,bSE,bSHE,bZE,bZHE,bCE,bJE,bNJE,bYE,bKE,bNGGE,bNGGEN,bGE,bGEN,bME,bNE,bNYE,bNG",
    "bLENGTHENER,aCOMMA,aFULL STOP,aQUESTION MARK,aSYLLABLE NDOLE FA,cKA,cSOO,aSYMBOL FEENG",
    "bKEENG,bTING,bNII,bBANG,bFAA,bTAA,bDANG,bDOONG,bKUNG,bTONG,bDO-O,bJONG,aDIGIT ZERO,bONE",
    "bTWO,bTHREE,bFOUR,bFIVE,bSIX,bSEVEN,bEIGHT,bNINE,aSYLLABLE NDOLE MA,cDO"]⟩,
  ⟨0xA640, ["CYRILLIC CAPITAL LETTER ZEMLYA,aSMALLb,aCAPITAL LETTER DZELO,aSMALLb",
    "aCAPITAL LETTER REVERSED DZE,aSMALLc,aCAPITAL LETTER IOTA,aSMALLb,aCAPITAL LETTER DJERV",
    "aSMALLb,aCAPITAL LETTER MONOGRAPH UK,aSMALLc,aCAPITAL LETTER BROAD OMEGA,aSMALLc",
    "aCAPITAL LETTER NEUTRAL YER,aSMALLc,aCAPITAL LETTER YERU WITH BACKa,aSMALLe",
    "aCAPITAL LETTER IOTIFIED YAT,aSMALLc,aCAPITAL LETTER REVERSED YU,aSMALLc",
    "aCAPITAL LETTER IOTIFIED A,aSMALLc,aCAPITAL LETTER CLOSED LITTLE YUS,aSMALLd",
    "aCAPITAL LETTER BLENDEDa,aSMALLc,aCAPITAL LETTER IOTIFIED CLOSED LITTLEa,aSMALLe",
    "aCAPITAL LETTER YN,aSMALLb,aCAPITAL LETTER REVERSED TSE,aSMALLc,aCAPITAL LETTER SOFT DE",
    "aSMALLc,aCAPITAL LETTER SOFT EL,aSMALLc,aCAPITAL LETTER SOFT EM,aSMALLc",
    "aCAPITAL LETTER MONOCULAR O,aSMALLc,aCAPITAL LETTER BINOCULARa,aSMALLc",
    "aCAPITAL LETTER DOUBLE MONOCULARa,aSMALLd,aLETTER MULTIOCULARa,COMBINING CYRILLIC VZMET",
    "bTEN MILLIONS SIGN,bHUNDREDb,bTHOUSANDb,SLAVONIC ASTERISK",
    "COMBINING CYRILLIC LETTER UKRAINIAN IE,cI,cYI,cU,cHARD SIGN,cYERU,cSOFT SIGN,cOMEGA,bKAVYKA",
    "bPAYEROK,CYRILLIC KAVYKA,aPAYEROK,aCAPITAL LETTER DWE,aSMALLb,aCAPITAL LETTER DZWE,aSMALLb",
    "aCAPITAL LETTER ZHWE,aSMALLb,aCAPITAL LETTER CCHE,aSMALLb,aCAPITAL LETTER DZZE,aSMALLb",
    "aCAPITAL LETTER TE WITH MIDDLE HOOK,aSMALLe,aCAPITAL LETTER TWE,aSMALLb",
    "aCAPITAL LETTER TSWE,aSMALLb,aCAPITAL LETTER TSSE,aSMALLb,aCAPITAL LETTER TCHE,aSMALLb",
    "aCAPITAL LETTER HWE,aSMALLb,aCAPITAL LETTER SHWE,aSMALLb,aCAPITAL LETTER DOUBLE O,aSMALLc",
    "aCAPITAL LETTER CROSSEDa,aSMALLc,MODIFIER LETTER CYRILLIC HARD SIGN,cSOFTa",
    "COMBINING CYRILLIC LETTER EF,cIOTIFIED E,BAMUM LETTER A,bKA,bU,bKU,bEE,bREE,bTAE,bO,bNYI,bI",
    "bLA,bPA,bRII,bRIEE,bLEEEE,bMEEEE,bTAA,bNDAA,bNJAEM,bM,bSUU,bMU,bSHII,bSI,bSHEUX,bSEUX,bKYEE",
    "bKET,bNUAE,bNU,bNJUAE,bYOQ,bSHU,bYUQ,bYA,bNSHA,bKEUX,bPEUX,bNJEE,bNTEE,bPUE,bWUE,bPEE,bFEE",
    "bRU,bLU,bMI,bNI,bREUX,bRAE,bKEN,bNGKWAEN,bNGGA,bNGA,bSHO,bPUAE,bFU,bFOM,bWA,bNA,bLI,bPI",
    "bLOQ,bKO,bMBEN,bREN,bMEN,bMA,bTI,bKI,bMO,bMBAA,bTET,bKPA,bTEN,bNTUU,bSAMBA,bFAAMAE,bKOVUU",
    "bKOGHOM,aCOMBINING MARK KOQNDON,cTUKWENTIS,aNJAEMLI,aFULL STOP,aCOLON,aCOMMA,aSEMICOLON",
    "aQUESTION MARK,,,,,,,,,MODIFIER LETTER CHINESE TONE YIN PING,dYANGa,dYIN SHANG,dYANGa",
    "dYIN QU,dYANGa,dYIN RU,dYANGa,bEXTRA-HIGH DOTTED TONE BAR,bHIGHc,bMIDc,bLOWc,bEXTRA-LOWc",
    "bEXTRA-HIGH DOTTED LEFT-STEMb,bHIGHd,bMIDd,bLOWd,bEXTRA-LOWd,bEXTRA-HIGHc,bHIGHc,bMIDc",
    "bLOWc,bEXTRA-LOWc,bDOT VERTICALa,cSLASH,cHORIZONTAL BAR,bLOWER RIGHT CORNER ANGLE",
    "bRAISED UP ARROW,cDOWNa,cEXCLAMATION MARK,cINVERTEDb,bLOWc,bSTRESS AND HIGH TONE,dLOWa",
    "LATIN CAPITAL LETTER EGYPTOLOGICAL ALEF,aSMALLc,aCAPITAL LETTER EGYPTOLOGICAL AIN,aSMALLc",
    "aCAPITAL LETTER HENG,aSMALLb,aCAPITAL LETTER TZ,aSMALLb,aCAPITAL LETTER TRESILLO,aSMALLb",
    "aCAPITAL LETTER CUATRILLO,aSMALLb,aCAPITAL LETTER CUATRILLO WITH COMMA,aSMALLd",
    "aLETTER SMALL CAPITAL F,dS,aCAPITAL LETTER AA,aSMALLb,aCAPITAL LETTER AO,aSMALLb",
    "aCAPITAL LETTER AU,aSMALLb,aCAPITAL LETTER AV,aSMALLb",
    "aCAPITAL LETTER AV WITH HORIZONTAL BAR,aSMALLe,aCAPITAL LETTER AY,aSMALLb",
    "aCAPITAL LETTER REVERSED C WITH DOT,aSMALLe,aCAPITAL LETTER K WITH STROKE,aSMALLd",
    "aCAPITAL LETTER K WITH DIAGONALa,aSMALLe,aCAPITAL LETTER K WITH STROKE ANDb,aSMALLg",
    "aCAPITAL LETTER BROKEN L,aSMALLc,aCAPITAL LETTER L WITH HIGH STROKE,aSMALLe",
    "aCAPITAL LETTER O WITH LONG STROKE OVERLAY,aSMALLf,aCAPITAL LETTER O WITH LOOP,aSMALLd",
    "aCAPITAL LETTER OO,aSMALLb,aCAPITAL LETTER P WITH STROKE THROUGH DESCENDER,aSMALLf",
    "aCAPITAL LETTER P WITH FLOURISH,aSMALLd,aCAPITAL LETTER P WITH SQUIRREL TAIL,aSMALLe",
    "aCAPITAL LETTER Q WITH STROKE THROUGH DESCENDER,aSMALLf",
    "aCAPITAL LETTER Q WITH DIAGONAL STROKE,aSMALLe,aCAPITAL LETTER R ROTUNDA,aSMALLc",
    "aCAPITAL LETTER RUMa,aSMALLc,aCAPITAL LETTER V WITH DIAGONAL STROKE,aSMALLe",
    "aCAPITAL LETTER VY,aSMALLb,aCAPITAL LETTER VISIGOTHIC Z,aSMALLc",
    "aCAPITAL LETTER THORN WITH STROKE,aSMALLd",
    "aCAPITAL LETTER THORN WITH STROKE THROUGH DESCENDER,aSMALLf,aCAPITAL LETTER VEND,aSMALLb",
    "aCAPITAL LETTER ET,aSMALLb,aCAPITAL LETTER IS,aSMALLb,aCAPITAL LETTER CON,aSMALLb",
    "MODIFIER LETTER US,LATIN SMALL LETTER DUM,cLUM,cMUM,cNUM,cRUM,aLETTER SMALL CAPITALa",
    "aSMALL LETTER TUM,cUM,aCAPITAL LETTER INSULAR D,aSMALLc,aCAPITAL LETTER INSULAR F,aSMALLc",
    "aCAPITAL LETTER INSULAR G,cTURNEDb,aSMALLd,aCAPITAL LETTER TURNED L,aSMALLc",
    "aCAPITAL LETTER INSULAR R,aSMALLc,aCAPITAL LETTER INSULAR S,aSMALLc",
    "aCAPITAL LETTER INSULAR T,aSMALLc,MODIFIER LETTER LOW CIRCUMFLEX ACCENT,bCOLON",
    "bSHORT EQUALS SIGN,LATIN CAPITAL LETTER SALTILLO,aSMALLb,aCAPITAL LETTER TURNED H",
    "aSMALL LETTER L WITH RETROFLEX HOOK AND BELT,aLETTER SINOLOGICAL DOT",
    "aCAPITAL LETTER N WITH DESCENDER,aSMALLd,aCAPITAL LETTER C WITH BAR,aSMALLd,ePALATAL HOOK",
    "cHc,aCAPITAL LETTER B WITH FLOURISH,aSMALLd,aCAPITAL LETTER F WITH STROKE,aSMALLd",
    "aCAPITAL LETTER VOLAPUK AE,aSMALLc,aCAPITAL LETTER VOLAPUK OE,aSMALLc",
    "aCAPITAL LETTER VOLAPUK UE,aSMALLc,aCAPITAL LETTER G WITH OBLIQUE STROKE,aSMALLe",
    "aCAPITAL LETTER Kc,aSMALLe,aCAPITAL LETTER Nc,aSMALLe,aCAPITAL LETTER Rc,aSMALLe",
    "aCAPITAL LETTER Sc,aSMALLe,aCAPITAL LETTER H WITH HOOK,cREVERSED OPEN E,cSCRIPT G",
    "cL WITH BELT,cSMALL CAPITAL I,aLETTER SMALL CAPITAL Q,aCAPITAL LETTER TURNED K,dT",
    "cJ WITH CROSSED-TAIL,cCHI,cBETA,aSMALLb,aCAPITAL LETTER OMEGA,aSMALLb",
    "aCAPITAL LETTER U WITH STROKE,aSMALLd,aCAPITAL LETTER GLOTTAL A,aSMALLc",
    "aCAPITAL LETTER GLOTTAL I,aSMALLc,aCAPITAL LETTER GLOTTAL U,aSMALLc",
    "aCAPITAL LETTER OLD POLISH O,aSMALLd,aCAPITAL LETTER ANGLICANA W,aSMALLc",
    "aCAPITAL LETTER C WITH PALATAL HOOK,cS WITHa,cZ WITH PALATALa,cD WITH SHORT STROKE OVERLAY",
    "aSMALLf,aCAPITAL LETTER Sd,aSMALLf,,,,,,aCAPITAL LETTER CLOSED INSULAR G,aSMALLd,",
    "cDOUBLE THORN,,dWYNN,aCAPITAL LETTER MIDDLE SCOTS S,aSMALLd,aCAPITAL LETTER SIGMOIDa",
    "aSMALLc"]⟩,
  ⟨0xA7F2, ["MODIFIER LETTER CAPITAL C,cF,cQ,LATIN CAPITAL LETTER REVERSED HALF H,aSMALLd",
    "aEPIGRAPHIC LETTER SIDEWAYS I,MODIFIER LETTER CAPITAL H WITH STROKE,bSMALL LIGATURE OE",
    "LATIN LETTER SMALL CAPITAL TURNED M,aEPIGRAPHIC LETTER REVERSED F,dP,cINVERTED M,cI LONGA",
    "cARCHAIC M,SYLOTI NAGRI LETTER A,cI,bSIGN DVISVARA,bLETTER U,cE,cO,bSIGN HASANTA,bLETTER KO",
    "cKHO,cGO,cGHO,bSIGN ANUSVARA,bLETTER CO,cCHO,cJO,cJHO,cTTO,cTTHO,cDDO,cDDHO,cTO,cTHO,cDO",
    "cDHO,cNO,cPO,cPHO,cBO,cBHO,cMO,cRO,cLO,cRRO,cSO,cHO,bVOWEL SIGN A,dI,dU,dE,dOO",
    "bPOETRY MARK-1,cMARK-2,cMARK-3,cMARK-4,bSIGN ALTERNATE HASANTA,,,",
    "NORTH INDIC FRACTION ONE QUARTER,dHALF,cTHREE QUARTERS,cONE SIXTEENTH,dEIGHTH",
    "cTHREE SIXTEENTHS,bQUARTER MARK,bPLACEHOLDERa,bRUPEEa,bQUANTITYa,,,,,,,PHAGS-PA LETTER KA",
    "bKHA,bGA,bNGA,bCA,bCHA,bJA,bNYA,bTA,bTHA,bDA,bNA,bPA,bPHA,bBA,bMA,bTSA,bTSHA,bDZA,bWA,bZHA",
    "bZA,bSMALL A,bYA,bRA,bLA,bSHA,bSA,bHA,bA,bI,bU,bE,bO,bQA,bXA,bFA,bGGA,bEE",
    "aSUBJOINED LETTER WA,cYA,aLETTER TTA,bTTHA,bDDA,bNNA,bALTERNATE YA,bVOICELESS SHA",
    "bVOICED HA,bASPIRATED FA,aSUBJOINED LETTER RA,aSUPERFIXEDb,aLETTER CANDRABINDU",
    "aSINGLE HEAD MARK,aDOUBLEb,aMARK SHAD,bDOUBLEa,,,,,,,,,SAURASHTRA SIGN ANUSVARA,bVISARGA",
    "aLETTER A,bAA,bI,bII,bU,bUU,bVOCALIC R,cRR,cL,cLL,bE,bEE,bAI,bO,bOO,bAU,bKA,bKHA,bGA,bGHA",
    "bNGA,bCA,bCHA,bJA,bJHA,bNYA,bTTA,bTTHA,bDDA,bDDHA,bNNA,bTA,bTHA,bDA,bDHA,bNA,bPA,bPHA,bBA",
    "bBHA,bMA,bYA,bRA,bLA,bVA,bSHA,bSSA,bSA,bHA,bLLA,aCONSONANT SIGN HAARU,aVOWEL SIGN AA,cI,cII",
    "cU,cUU,cVOCALIC R,dRR,dL,dLL,cE,cEE,cAI,cO,cOO,cAU,aSIGN VIRAMA,bCANDRABINDU,,,,,,,,,aDANDA",
    "aDOUBLEa,aDIGIT ZERO,bONE,bTWO,bTHREE,bFOUR,bFIVE,bSIX,bSEVEN,bEIGHT,bNINE,,,,,,",
    "COMBINING DEVANAGARI DIGIT ZERO,cONE,cTWO,cTHREE,cFOUR,cFIVE,cSIX,cSEVEN,cEIGHT,cNINE",
    "bLETTER A,cU,cKA,cNA,cPA,cRA,cVI,bSIGN AVAGRAHA,DEVANAGARI SIGN SPACING CANDRABINDU",
    "bCANDRABINDU VIRAMA,bDOUBLEb,bCANDRABINDU TWO,cTHREE,cAVAGRAHA,bPUSHPIKA,aGAP FILLER,aCARET",
    "aHEADSTROKE,aSIGN SIDDHAM,aJAIN OM,aLETTER AY,aVOWEL SIGNa,KAYAH LI DIGIT ZERO,cONE,cTWO",
    "cTHREE,cFOUR,cFIVE,cSIX,cSEVEN,cEIGHT,cNINE,bLETTER KA,cKHA,cGA,cNGA,cSA,cSHA,cZA,cNYA,cTA",
    "cHTA,cNA,cPA,cPHA,cMA,cDA,cBA,cRA,cYA,cLA,cWA,cTHA,cHA,cVA,cCA,cA,cOE,cI,cOO,bVOWEL UE,cE",
    "cU,cEE,cO,bTONE PLOPHU,cCALYA,dPLOPHU,bSIGN CWI,cSHYA,REJANG LETTER KA,bGA,bNGA,bTA,bDA,bNA",
    "bPA,bBA,bMA,bCA,bJA,bNYA,bSA,bRA,bLA,bYA,bWA,bHA,bMBA,bNGGA,bNDA,bNYJA,bA,aVOWEL SIGN I,cU",
    "cE,cAI,cO,cAU,cEU,cEA,aCONSONANT SIGN NG,cN,cR,cH,aVIRAMA,,,,,,,,,,,,aSECTION MARK",
    "HANGUL CHOSEONG TIKEUT-MIEUM,bTIKEUT-PIEUP,bTIKEUT-SIOS,bTIKEUT-CIEUC,bRIEUL-KIYEOK",
    "bRIEUL-SSANGKIYEOK,bRIEUL-TIKEUT,bRIEUL-SSANGTIKEUT,bRIEUL-MIEUM,bRIEUL-PIEUP",
    "bRIEUL-SSANGPIEUP,bRIEUL-KAPYEOUNPIEUP,bRIEUL-SIOS,bRIEUL-CIEUC,bRIEUL-KHIEUKH",
    "bMIEUM-KIYEOK,bMIEUM-TIKEUT,bMIEUM-SIOS,bPIEUP-SIOS-THIEUTH,bPIEUP-KHIEUKH,bPIEUP-HIEUH",
    "bSSANGSIOS-PIEUP,bIEUNG-RIEUL,bIEUNG-HIEUH,bSSANGCIEUC-HIEUH,bSSANGTHIEUTH,bPHIEUPH-HIEUH",
    "bHIEUH-SIOS,bSSANGYEORINHIEUH,,,,JAVANESE SIGN PANYANGGA,bCECAK,bLAYAR,bWIGNYAN,aLETTER A",
    "bI KAWI,c,bII,bU,bPA CEREK,bNGA LELET,dRASWADI,bE,bAI,bO,bKA,cSASAK,cMURDA,bGA,cMURDA,bNGA",
    "bCA,cMURDA,bJA,bNYA MURDA,bJA MAHAPRANA,bNYA,bTTA,cMAHAPRANA,bDDA,cMAHAPRANA,bNA MURDA,bTA",
    "cMURDA,bDA,cMAHAPRANA,bNA,bPA,cMURDA,bBA,cMURDA,bMA,bYA,bRA,cAGUNG,bLA,bWA,bSA MURDA",
    "cMAHAPRANA,c,bHA,aSIGN CECAK TELU,aVOWEL SIGN TARUNG,cTOLONG,cWULU,dMELIK,cSUKU,dMENDUT",
    "cTALING,cDIRGA MURE,cPEPET,aCONSONANT SIGN KERET,cPENGKAL,cCAKRA,aPANGKON,aLEFT RERENGGAN",
    "aRIGHTa,aPADA ANDAP,bMADYA,bLUHUR,bWINDU,bPANGKAT,bLINGSA,bLUNGSI,bADEG,cADEG,bPISELEH",
    "aTURNEDb,,aPANGRANGKEP,aDIGIT ZERO,bONE,bTWO,bTHREE,bFOUR,bFIVE,bSIX,bSEVEN,bEIGHT,bNINE,,,",
    ",aPADA TIRTA TUMETES,bISEN-ISEN,MYANMAR LETTER SHAN GHA,cCHA,cJHA,cNNA,cBHA,aSIGN SHAN SAW",
    "aMODIFIER LETTER SHAN REDUPLICATION,aLETTER TAI LAING NYA,dFA,dGA,dGHA,dJA,dJHA,dDDA,dDDHA",
    "dNNA,aTAI LAING DIGIT ZERO,dONE,dTWO,dTHREE,dFOUR,dFIVE,dSIX,dSEVEN,dEIGHT,dNINE",
    "aLETTER TAI LAING LLA,dDA,dDHA,dBA,dBHA,,CHAM LETTER A,bI,bU,bE,bAI,bO,bKA,bKHA,bGA,bGHA",
    "bNGUE,bNGA,bCHA,bCHHA,bJA,bJHA,bNHUE,bNHA,bNHJA,bTA,bTHA,bDA,bDHA,bNUE,bNA,bDDA,bPA,bPPA",
    "bPHA,bBA,bBHA,bMUE,bMA,bBBA,bYA,bRA,bLA,bVA,bSSA,bSA,bHA,aVOWEL SIGN AA,cI,cII,cEI,cU,cOE",
    "cO,cAI,cAU,cUE,aCONSONANT SIGN YA,cRA,cLA,cWA,,,,,,,,,,aLETTER FINAL K,cG,cNG",
    "aCONSONANT SIGNb,aLETTER FINAL CH,cT,cN,cP,cY,cR,cL,cSS,aCONSONANT SIGN FINAL M,dH,,",
    "aDIGIT ZERO,bONE,bTWO,bTHREE,bFOUR,bFIVE,bSIX,bSEVEN,bEIGHT,bNINE,,,aPUNCTUATION SPIRAL",
    "bDANDA,bDOUBLEa,bTRIPLEa,MYANMAR LETTER KHAMTI GA,cCA,cCHA,cJA,cJHA,cNYA,cTTA,cTTHA,cDDA",
    "cDDHA,cDHA,cNA,cSA,cHA,cHHA,cFA,aMODIFIER LETTER KHAMTI REDUPLICATION,aLETTER KHAMTI XA,cZA",
    "cRA,aLOGOGRAM KHAMTI OAY,cQN,cHM,aSYMBOL AITON EXCLAMATION,cONE,cTWO,aLETTER AITON RA",
    "aSIGN PAO KAREN TONE,bTAI LAING TONE-2,dTONE-5,aLETTER SHWE PALAUNG CHA,dSHA",
    "TAI VIET LETTER LOW KO,cHIGHa,cLOW KHO,cHIGHa,cLOW KHHO,cHIGHa,cLOW GO,cHIGHa,cLOW NGO",
    "cHIGHa,cLOW CO,cHIGHa,cLOW CHO,cHIGHa,cLOW SO,cHIGHa,cLOW NYO,cHIGHa,cLOW DO,cHIGHa,cLOW TO",
    "cHIGHa,cLOW THO,cHIGHa,cLOW NO,cHIGHa,cLOW BO,cHIGHa,cLOW PO,cHIGHa,cLOW PHO,cHIGHa,cLOW FO",
    "cHIGHa,cLOW MO,cHIGHa,cLOW YO,cHIGHa,cLOW RO,cHIGHa,cLOW LO,cHIGHa,cLOW VO,cHIGHa,cLOW HO",
    "cHIGHa,cLOW O,cHIGHa,bMAI KANG,bVOWEL AA,cI,cUE,cU,cE,cO,bMAI KHIT,bVOWEL IA,cUEA,cUA,cAUE",
    "cAY,cAN,cAM,bTONE MAI EK,dNUENG,dTHO,dSONG"]⟩,
  ⟨0xAADB, ["TAI VIET SYMBOL KON,cNUENG,cSAM,cHO HOI,cKOI KOI,MEETEI MAYEK LETTER E,cO,cCHA,cNYA",
    "cTTA,cTTHA,cDDA,cDDHA,cNNA,cSHA,cSSA,bVOWEL SIGN II,dUU,dAAI,dAU,dAAU,bCHEIKHAN",
    "bAHANG KHUDAM,bANJI,bSYLLABLE REPETITION MARK,bWORDb,bVOWEL SIGN VISARGA,bVIRAMA,,,,,,,,,,",
    "ETHIOPIC SYLLABLE TTHU,bTTHI,bTTHAA,bTTHEE,bTTHE,bTTHO,,,bDDHU,bDDHI,bDDHAA,bDDHEE,bDDHE",
    "bDDHO,,,bDZU,bDZI,bDZAA,bDZEE,bDZE,bDZO,,,,,,,,,,bCCHHA,bCCHHU,bCCHHI,bCCHHAA,bCCHHEE",
    "bCCHHE,bCCHHO,,bBBA,bBBU,bBBI,bBBAA,bBBEE,bBBE,bBBO,,LATIN SMALL LETTER BARRED ALPHA",
    "cA REVERSED-SCHWA,cBLACKLETTER E,cBARREDa,cE WITH FLOURISH,cLENIS F",
    "cSCRIPT G WITH CROSSED-TAIL,cL WITH INVERTED LAZY S,eDOUBLE MIDDLE TILDE,eMIDDLE RING",
    "cM WITH CROSSED-TAIL,cNb,cENGb,cBLACKLETTER O,eWITH STROKE,cOPENc,cINVERTED OE",
    "cTURNED OE WITH STROKE,fHORIZONTALa,dO OPEN-O,fWITH STROKE,cSTIRRUP R",
    "aLETTER SMALL CAPITAL R WITH RIGHT LEG,aSMALL LETTER R WITHOUT HANDLE,cDOUBLE R",
    "cR WITH CROSSED-TAIL,cDOUBLEc,cSCRIPT R,eWITH RING,cBASELINE ESH,cU WITH SHORT RIGHT LEG",
    "dBARd,cUI,cTURNEDa,cU WITH LEFT HOOK,cCHI,dWITH LOW RIGHT RING,fLEFT SERIF",
    "cX WITH LOW RIGHT RING,eLONG LEFT LEG,hAND LOW RIGHT RING,hWITH SERIF",
    "cY WITH SHORT RIGHT LEG,MODIFIER BREVE WITH INVERTED BREVE,aLETTER SMALL HENG",
    "cL WITH INVERTED LAZY S,eMIDDLE TILDE,cU WITH LEFT HOOK,LATIN SMALL LETTER SAKHA YAT",
    "cIOTIFIED E,cOPEN OE,cUO,cINVERTED ALPHA,GREEK LETTER SMALL CAPITAL OMEGA",
    "LATIN SMALL LETTER DZ DIGRAPH WITH RETROFLEX HOOK,cTSd,cTURNED R WITH MIDDLE TILDE",
    "MODIFIER LETTER SMALL TURNED W,bLEFT TACK,bRIGHTa,,,,,CHEROKEE SMALL LETTER A,cE,cI,cO,cU",
    "cV,cGA,cKA,cGE,cGI,cGO,cGU,cGV,cHA,cHE,cHI,cHO,cHU,cHV,cLA,cLE,cLI,cLO,cLU,cLV,cMA,cME,cMI",
    "cMO,cMU,cNA,cHNA,cNAH,cNE,cNI,cNO,cNU,cNV,cQUA,cQUE,cQUI,cQUO,cQUU,cQUV,cSA,cS,cSE,cSI,cSO",
    "cSU,cSV,cDA,cTA,cDE,cTE,cDI,cTI,cDO,cDU,cDV,cDLA,cTLA,cTLE,cTLI,cTLO,cTLU,cTLV,cTSA,cTSE",
    "cTSI,cTSO,cTSU,cTSV,cWA,cWE,cWI,cWO,cWU,cWV,cYA,MEETEI MAYEK LETTER KOK,cSAM,cLAI,cMIT,cPA",
    "cNA,cCHIL,cTIL,cKHOU,cNGOU,cTHOU,cWAI,cYANG,cHUK,cUN,cI,cPHAM,cATIYA,cGOK,cJHAM,cRAI,cBA",
    "cJIL,cDIL,cGHOU,cDHOU,cBHAM,cKOK LONSUM,cLAIa,cMITa,cPAa,cNAa,cTILa,cNGOUa,cIa",
    "bVOWEL SIGN ONAP,dINAP,dANAP,dYENAP,dSOUNAP,dUNAP,dCHEINAP,dNUNG,bCHEIKHEI,bLUM IYEK,bAPUNa",
    ",,bDIGIT ZERO,cONE,cTWO,cTHREE,cFOUR,cFIVE,cSIX,cSEVEN,cEIGHT,cNINE"]⟩,
  ⟨0xD7B0, ["HANGUL JUNGSEONG O-YEO,bO-O-I,bYO-A,bYO-AE,bYO-EO,bU-YEO,bU-I-I,bYU-AE,bYU-O,bEU-A",
    "bEU-EO,bEU-E,bEU-O,bI-YA-O,bI-YAE,bI-YEO,bI-YE,bI-O-I,bI-YO,bI-YU,bI-I,bARAEA-A,bARAEA-E,,,",
    ",aJONGSEONG NIEUN-RIEUL,bNIEUN-CHIEUCH,bSSANGTIKEUT,bSSANGTIKEUT-PIEUP,bTIKEUT-PIEUP",
    "bTIKEUT-SIOS,bTIKEUT-SIOS-KIYEOK,bTIKEUT-CIEUC,bTIKEUT-CHIEUCH,bTIKEUT-THIEUTH",
    "bRIEUL-SSANGKIYEOK,bRIEUL-KIYEOK-HIEUH,bSSANGRIEUL-KHIEUKH,bRIEUL-MIEUM-HIEUH",
    "bRIEUL-PIEUP-TIKEUT,bRIEUL-PIEUP-PHIEUPH,bRIEUL-YESIEUNG,bRIEUL-YEORINHIEUH-HIEUH",
    "bKAPYEOUNRIEUL,bMIEUM-NIEUN,bMIEUM-SSANGNIEUN,bSSANGMIEUM,bMIEUM-PIEUP-SIOS,bMIEUM-CIEUC",
    "bPIEUP-TIKEUT,bPIEUP-RIEUL-PHIEUPH,bPIEUP-MIEUM,bSSANGPIEUP,bPIEUP-SIOS-TIKEUT,bPIEUP-CIEUC",
    "bPIEUP-CHIEUCH,bSIOS-MIEUM,bSIOS-KAPYEOUNPIEUP,bSSANGSIOS-KIYEOK,bSSANGSIOS-TIKEUT",
    "bSIOS-PANSIOS,bSIOS-CIEUC,bSIOS-CHIEUCH,bSIOS-THIEUTH,bSIOS-HIEUH,bPANSIOS-PIEUP",
    "bPANSIOS-KAPYEOUNPIEUP,bYESIEUNG-MIEUM,bYESIEUNG-HIEUH,bCIEUC-PIEUP,bCIEUC-SSANGPIEUP",
    "bSSANGCIEUC,bPHIEUPH-SIOS,bPHIEUPH-THIEUTH"]⟩,
  ⟨0xFB00, ["LATIN SMALL LIGATURE FF,cFI,cFL,cFFI,cFFL,cLONG S T,cST"]⟩,
  ⟨0xFB13, ["ARMENIAN SMALL LIGATURE MEN NOW,dECH,dINI,cVEW NOW,cMEN XEH,,,,,",
    "HEBREW LETTER YOD WITH HIRIQ,aPOINT JUDEO-SPANISH VARIKA,aLIGATURE YIDDISH YOD YOD PATAH",
    "aLETTER ALTERNATIVE AYIN,bWIDE ALEF,cDALET,cHE,cKAF,cLAMED,cFINAL MEM,cRESH,cTAV",
    "bALTERNATIVE PLUS SIGN,bSHIN WITH SHIN DOT,dSINa,dDAGESH AND SHINa,fSINa,bALEF WITH PATAH",
    "dQAMATS,dMAPIQ,bBET WITH DAGESH,bGIMELb,bDALETb,bHE WITH MAPIQ,bVAV WITH DAGESH,bZAYINb,",
    "bTETb,bYODb,bFINAL KAFb,bKAF WITH DAGESH,bLAMEDb,,bMEMb,,bNUNb,bSAMEKHb,,bFINAL PEb",
    "bPE WITH DAGESH,,bTSADIb,bQOFb,bRESHb,bSHINb,bTAVb,bVAV WITH HOLAM,bBET WITH RAFE,bKAFb",
    "bPEb,aLIGATURE ALEF LAMED,ARABIC LETTER ALEF WASLA ISOLATED FORM,dFINALa,bBEEH ISOLATEDa",
    "cFINALa,cINITIALa,cMEDIALa,bPEH ISOLATEDa,cFINALa,cINITIALa,cMEDIALa,bBEHEH ISOLATEDa",
    "cFINALa,cINITIALa,cMEDIALa,bTTEHEH ISOLATEDa,cFINALa,cINITIALa,cMEDIALa,bTEHEH ISOLATEDa",
    "cFINALa,cINITIALa,cMEDIALa,bTTEH ISOLATEDa,cFINALa,cINITIALa,cMEDIALa,bVEH ISOLATEDa",
    "cFINALa,cINITIALa,cMEDIALa,bPEHEH ISOLATEDa,cFINALa,cINITIALa,cMEDIALa,bDYEH ISOLATEDa",
    "cFINALa,cINITIALa,cMEDIALa,bNYEH ISOLATEDa,cFINALa,cINITIALa,cMEDIALa,bTCHEH ISOLATEDa",
    "cFINALa,cINITIALa,cMEDIALa,bTCHEHEH ISOLATEDa,cFINALa,cINITIALa,cMEDIALa,bDDAHAL ISOLATEDa",
    "cFINALa,bDAHAL ISOLATEDa,cFINALa,bDUL ISOLATEDa,cFINALa,bDDAL ISOLATEDa,cFINALa",
    "bJEH ISOLATEDa,cFINALa,bRREH ISOLATEDa,cFINALa,bKEHEH ISOLATEDa,cFINALa,cINITIALa,cMEDIALa",
    "bGAF ISOLATEDa,cFINALa,cINITIALa,cMEDIALa,bGUEH ISOLATEDa,cFINALa,cINITIALa,cMEDIALa",
    "bNGOEH ISOLATEDa,cFINALa,cINITIALa,cMEDIALa,bNOON GHUNNA ISOLATEDa,dFINALa,bRNOON ISOLATEDa",
    "cFINALa,cINITIALa,cMEDIALa,bHEH WITH YEH ABOVE ISOLATEDa,fFINALa,cGOAL ISOLATEDa,dFINALa",
    "dINITIALa,dMEDIALa,cDOACHASHMEE ISOLATEDa,dFINALa,dINITIALa,dMEDIALa,bYEH BARREE ISOLATEDa",
    "dFINALa,dWITH HAMZA ABOVE ISOLATEDa,gFINALa,aSYMBOL DOT ABOVE,cBELOW,bTWO DOTS ABOVE,dBELOW",
    "bTHREE DOTS ABOVE,dBELOW,dPOINTING DOWNWARDS ABOVE,fBELOW,bFOUR DOTS ABOVE,dBELOW",
    "bDOUBLE VERTICAL BARa,bTWO DOTS VERTICALLY ABOVE,eBELOW,bRING,bSMALL TAH ABOVE,dBELOW",
    "bWASLA ABOVE"]⟩,
  ⟨0xFBD3, ["ARABIC LETTER NG ISOLATED FORM,cFINALa,cINITIALa,cMEDIALa,bU ISOLATEDa,cFINALa",
    "bOE ISOLATEDa,cFINALa,bYU ISOLATEDa,cFINALa,bU WITH HAMZA ABOVE ISOLATEDa,bVEb,cFINALa",
    "bKIRGHIZ OE ISOLATEDa,dFINALa,cYU ISOLATEDa,dFINALa,bE ISOLATEDa,cFINALa,cINITIALa,cMEDIALa",
    "bUIGHUR KAZAKH KIRGHIZ ALEF MAKSURA INITIALa,gMEDIALa",
    "aLIGATURE YEH WITH HAMZA ABOVE WITH ALEF ISOLATEDa,hFINALa,gAE ISOLATEDa,hFINALa",
    "gWAW ISOLATEDa,hFINALa,gU ISOLATEDa,hFINALa,gOE ISOLATEDa,hFINALa,gYU ISOLATEDa,hFINALa",
    "gE ISOLATEDa,hFINALa,hINITIALa",
    "bUIGHUR KIRGHIZ YEH WITH HAMZA ABOVE WITH ALEF MAKSURA ISOLATEDa,kFINALa,kINITIALa",
    "aLETTER FARSI YEH ISOLATEDa,dFINALa,dINITIALa,dMEDIALa",
    "aLIGATURE YEH WITH HAMZA ABOVE WITH JEEM ISOLATEDa,gHAHb,gMEEMb,gALEF MAKSURAb,gYEHb",
    "bBEH WITH JEEMb,dHAHb,dKHAHb,dMEEMb,dALEF MAKSURAb,dYEHb,bTEH WITH JEEMb,dHAHb,dKHAHb",
    "dMEEMb,dALEF MAKSURAb,dYEHb,bTHEH WITH JEEMb,dMEEMb,dALEF MAKSURAb,dYEHb,bJEEM WITH HAHb",
    "dMEEMb,bHAH WITH JEEMb,dMEEMb,bKHAH WITH JEEMb,dHAHb,dMEEMb,bSEEN WITH JEEMb,dHAHb,dKHAHb",
    "dMEEMb,bSAD WITH HAHb,dMEEMb,bDAD WITH JEEMb,dHAHb,dKHAHb,dMEEMb,bTAH WITH HAHb,dMEEMb",
    "bZAHd,bAIN WITH JEEMb,dMEEMb,bGHAIN WITH JEEMb,dMEEMb,bFEH WITH JEEMb,dHAHb,dKHAHb,dMEEMb",
    "dALEF MAKSURAb,dYEHb,bQAF WITH HAHb,dMEEMb,dALEF MAKSURAb,dYEHb,bKAF WITH ALEFb,dJEEMb",
    "dHAHb,dKHAHb,dLAMb,dMEEMb,dALEF MAKSURAb,dYEHb,bLAM WITH JEEMb,dHAHb,dKHAHb,dMEEMb",
    "dALEF MAKSURAb,dYEHb,bMEEM WITH JEEMb,dHAHb,dKHAHb,dMEEMb,dALEF MAKSURAb,dYEHb",
    "bNOON WITH JEEMb,dHAHb,dKHAHb,dMEEMb,dALEF MAKSURAb,dYEHb,bHEH WITH JEEMb,dMEEMb",
    "dALEF MAKSURAb,dYEHb,bYEH WITH JEEMb,dHAHb,dKHAHb,dMEEMb,dALEF MAKSURAb,dYEHb",
    "bTHAL WITH SUPERSCRIPT ALEFb,bREHe,bALEF MAKSURAe,bSHADDA WITH DAMMATANb,dKASRATANb,dFATHAb",
    "dDAMMAb,dKASRAb,dSUPERSCRIPT ALEFb,bYEH WITH HAMZA ABOVE WITH REH FINALa,gZAINb,gMEEMb",
    "gNOONb,gALEF MAKSURAb,gYEHb,bBEH WITH REHb,dZAINb,dMEEMb,dNOONb,dALEF MAKSURAb,dYEHb",
    "bTEH WITH REHb,dZAINb,dMEEMb,dNOONb,dALEF MAKSURAb,dYEHb,bTHEH WITH REHb,dZAINb,dMEEMb",
    "dNOONb,dALEF MAKSURAb,dYEHb,bFEH WITH ALEF MAKSURAb,dYEHb,bQAF WITH ALEF MAKSURAb,dYEHb",
    "bKAF WITH ALEFb,dLAMb,dMEEMb,dALEF MAKSURAb,dYEHb,bLAM WITH MEEMb,dALEF MAKSURAb,dYEHb",
    "bMEEM WITH ALEFb,dMEEMb,bNOON WITH REHb,dZAINb,dMEEMb,dNOONb,dALEF MAKSURAb,dYEHb",
    "bALEF MAKSURA WITH SUPERSCRIPT ALEFb,bYEH WITH REHb,dZAINb,dMEEMb,dNOONb,dALEF MAKSURAb",
    "dYEHb,dHAMZA ABOVE WITH JEEM INITIALa,gHAHb,gKHAHb,gMEEMb,gHEHb,bBEH WITH JEEMb,dHAHb",
    "dKHAHb,dMEEMb,dHEHb,bTEH WITH JEEMb,dHAHb,dKHAHb,dMEEMb,dHEHb,bTHEH WITH MEEMb",
    "bJEEM WITH HAHb,dMEEMb,bHAH WITH JEEMb,dMEEMb,bKHAH WITH JEEMb,dMEEMb,bSEEN WITH JEEMb",
    "dHAHb,dKHAHb,dMEEMb,bSAD WITH HAHb,dKHAHb,dMEEMb,bDAD WITH JEEMb,dHAHb,dKHAHb,dMEEMb",
    "bTAH WITH HAHb,bZAH WITH MEEMb,bAIN WITH JEEMb,dMEEMb,bGHAIN WITH JEEMb,dMEEMb",
    "bFEH WITH JEEMb,dHAHb,dKHAHb,dMEEMb,bQAF WITH HAHb,dMEEMb,bKAF WITH JEEMb,dHAHb,dKHAHb",
    "dLAMb,dMEEMb,bLAM WITH JEEMb,dHAHb,dKHAHb,dMEEMb,dHEHb,bMEEM WITH JEEMb,dHAHb,dKHAHb,dMEEMb",
    "bNOON WITH JEEMb,dHAHb,dKHAHb,dMEEMb,dHEHb,bHEH WITH JEEMb,dMEEMb,dSUPERSCRIPT ALEFb",
    "bYEH WITH JEEMb,dHAHb,dKHAHb,dMEEMb,dHEHb,dHAMZA ABOVE WITH MEEM MEDIALa,gHEHb",
    "bBEH WITH MEEMb,dHEHb,bTEH WITH MEEMb,dHEHb,bTHEH WITH MEEMb,dHEHb,bSEEN WITH MEEMb,dHEHb",
    "bSHEEN WITH MEEMb,dHEHb,bKAF WITH LAMb,dMEEMb,bLAMd,bNOONd,dHEHb,bYEH WITH MEEMb,dHEHb",
    "bSHADDA WITH FATHAb,dDAMMAb,dKASRAb,bTAH WITH ALEF MAKSURA ISOLATEDa,dYEHb",
    "bAIN WITH ALEF MAKSURAb,dYEHb,bGHAIN WITH ALEF MAKSURAb,dYEHb,bSEEN WITH ALEF MAKSURAb",
    "dYEHb,bSHEEN WITH ALEF MAKSURAb,dYEHb,bHAH WITH ALEF MAKSURAb,dYEHb",
    "bJEEM WITH ALEF MAKSURAb,dYEHb,bKHAH WITH ALEF MAKSURAb,dYEHb,bSAD WITH ALEF MAKSURAb,dYEHb",
    "bDAD WITH ALEF MAKSURAb,dYEHb,bSHEEN WITH JEEMb,dHAHb,dKHAHb,dMEEMb,dREHb,bSEENd,bSADd",
    "bDADd,bTAH WITH ALEF MAKSURA FINALa,dYEHb,bAIN WITH ALEF MAKSURAb,dYEHb",
    "bGHAIN WITH ALEF MAKSURAb,dYEHb,bSEEN WITH ALEF MAKSURAb,dYEHb,bSHEEN WITH ALEF MAKSURAb",
    "dYEHb,bHAH WITH ALEF MAKSURAb,dYEHb,bJEEM WITH ALEF MAKSURAb,dYEHb,bKHAH WITH ALEF MAKSURAb",
    "dYEHb,bSAD WITH ALEF MAKSURAb,dYEHb,bDAD WITH ALEF MAKSURAb,dYEHb,bSHEEN WITH JEEMb,dHAHb",
    "dKHAHb,dMEEMb,dREHb,bSEENd,bSADd,bDADd,bSHEEN WITH JEEM INITIALa,dHAHb,dKHAHb,dMEEMb",
    "bSEEN WITH HEHb,bSHEENd,bTAH WITH MEEMb,bSEEN WITH JEEM MEDIALa,dHAHb,dKHAHb",
    "bSHEEN WITH JEEMb,dHAHb,dKHAHb,bTAH WITH MEEMb,bZAHd,bALEF WITH FATHATAN FINALa,eISOLATEDa",
    "ORNATE LEFT PARENTHESIS,aRIGHTa,ARABIC LIGATURE RAHIMAHU ALLAAH,bRADI ALLAAHU ANH,dANHAA",
    "dANHUM,dANHUMAA,dANHUNNA,bSALLALLAAHU ALAYHI WA-AALIH,bALAYHI AS-SALAAM,bALAYHIMa",
    "bALAYHIMAAa,bALAYHI AS-SALAATU WAS-SALAAM,bQUDDISA SIRRAH",
    "bSALLALLAHU ALAYHI WAAALIHEE WA-SALLAM,bALAYHAA AS-SALAAM,bTABAARAKA WA-TAAALAA",
    "bRAHIMAHUM ALLAAH,bTEH WITH JEEM WITH MEEM INITIAL FORM,dHAH WITH JEEM FINALa,gINITIALa",
    "fMEEMb,dKHAHd,dMEEM WITH JEEMb,fHAHb,fKHAHb,bJEEM WITH MEEM WITH HAH FINALa,gINITIALa",
    "bHAH WITH MEEM WITH YEH FINALa,fALEF MAKSURAb,bSEEN WITH HAH WITH JEEM INITIALa",
    "dJEEM WITH HAHb,fALEF MAKSURA FINALa,dMEEM WITH HAHb,gINITIALa,fJEEMb,fMEEM FINALa",
    "gINITIALa,bSAD WITH HAH WITH HAH FINALa,gINITIALa,dMEEM WITH MEEM FINALa,bSHEEN WITH HAHd",
    "gINITIALa,dJEEM WITH YEH FINALa,dMEEM WITH KHAHb,gINITIALa,fMEEM FINALa,gINITIALa",
    "bDAD WITH HAH WITH ALEF MAKSURA FINALa,dKHAH WITH MEEMb,gINITIALa",
    "bTAH WITH MEEM WITH HAH FINALa,gINITIALa,fMEEMb,fYEH FINALa,bAIN WITH JEEM WITH MEEMb",
    "dMEEMd,gINITIALa,fALEF MAKSURA FINALa,bGHAIN WITH MEEM WITH MEEMb,fYEHb,fALEF MAKSURAb",
    "bFEH WITH KHAH WITH MEEMb,gINITIALa,bQAF WITH MEEM WITH HAH FINALa,fMEEMb,bLAM WITH HAHd",
    "fYEHb,fALEF MAKSURAb,dJEEM WITH JEEM INITIALa,gFINALa,dKHAH WITH MEEMb,gINITIALa",
    "dMEEM WITH HAH FINALa,gINITIALa,bMEEM WITH HAH WITH JEEMb,fMEEMb,fYEH FINALa",
    "dJEEM WITH HAH INITIALa,fMEEMb,dKHAH WITH JEEMb,fMEEMb,,,dJEEM WITH KHAHb",
    "bHEH WITH MEEM WITH JEEMb,fMEEMb,bNOON WITH HAHd,fALEF MAKSURA FINALa,dJEEM WITH MEEMb",
    "gINITIALa,fALEF MAKSURA FINALa,dMEEM WITH YEHb,fALEF MAKSURAb,bYEH WITH MEEM WITH MEEMb",
    "gINITIALa,bBEH WITH KHAH WITH YEH FINALa,bTEH WITH JEEMd,fALEF MAKSURAb,dKHAH WITH YEHb",
    "fALEF MAKSURAb,dMEEM WITH YEHb,fALEF MAKSURAb,bJEEM WITH MEEM WITH YEHb",
    "dHAH WITH ALEF MAKSURAb,dMEEMe,bSEEN WITH KHAHe,bSAD WITH HAH WITH YEHb,bSHEENf,bDADf",
    "bLAM WITH JEEMd,dMEEMd,bYEH WITH HAHd,dJEEMd,dMEEMd,bMEEMf,bQAFf,bNOON WITH HAHd",
    "bQAF WITH MEEM WITH HAH INITIALa,bLAM WITH HAH WITH MEEMb,bAIN WITH MEEM WITH YEH FINALa",
    "bKAFf,bNOON WITH JEEM WITH HAH INITIALa,bMEEM WITH KHAH WITH YEH FINALa",
    "bLAM WITH JEEM WITH MEEM INITIALa,bKAF WITH MEEM WITH MEEM FINALa,bLAM WITH JEEMd",
    "bNOON WITH JEEM WITH HAHb,bJEEM WITH HAH WITH YEHb,bHAH WITH JEEMd,bMEEMf,bFEH WITH MEEMd",
    "bBEH WITH HAHd,bKAF WITH MEEM WITH MEEM INITIALa,bAIN WITH JEEMd,bSAD WITH MEEMd",
    "bSEEN WITH KHAH WITH YEH FINALa,bNOON WITH JEEMd,,,,,,,,bSALAAMUHU ALAYNAA"]⟩,
  ⟨0xFDF0, ["ARABIC LIGATURE SALLA USED AS KORANIC STOP SIGN ISOLATED FORM,bQALAg,bALLAHb",
    "bAKBARb,bMOHAMMADb,bSALAMb,bRASOULb,bALAYHEb,bWASALLAMb,bSALLAb",
    "bSALLALLAHOU ALAYHE WASALLAM,bJALLAJALALOUHOU,RIAL SIGN",
    "ARABIC LIGATURE BISMILLAH AR-RAHMAN AR-RAHEEM,bSUBHAANAHU WA TAAALAA,bAZZA WA JALL"]⟩,
  ⟨0xFE10, ["PRESENTATION FORM FOR VERTICAL COMMA,dIDEOGRAPHICa,eFULL STOP,dCOLON,dSEMICOLON",
    "dEXCLAMATION MARK,dQUESTIONa,dLEFT WHITE LENTICULAR BRACKET,dRIGHT WHITE LENTICULAR BRAKCET",
    "dHORIZONTAL ELLIPSIS,,,,,,,COMBINING LIGATURE LEFT HALF,bRIGHTa,aDOUBLE TILDE LEFTa,cRIGHTa",
    "aMACRON LEFTa,bRIGHTa,aCONJOINING MACRON,aLIGATURE LEFT HALF BELOW,bRIGHTb,aTILDE LEFTb",
    "bRIGHTb,aMACRON LEFTb,bRIGHTb,aCONJOINING MACRONa,aCYRILLIC TITLO LEFT HALF,cRIGHTa",
    "PRESENTATION FORM FOR VERTICAL TWO DOT LEADER,dEM DASH,dENa,dLOW LINE,dWAVYb",
    "dLEFT PARENTHESIS,dRIGHTa,dLEFT CURLY BRACKET,dRIGHTb,dLEFT TORTOISE SHELLa,dRIGHTc",
    "dLEFT BLACK LENTICULARa,dRIGHTc,dLEFT DOUBLE ANGLEa,dRIGHTc,dLEFTb,dRIGHTb,dLEFT CORNERa",
    "dRIGHTb,dLEFT WHITEb,dRIGHTc,SESAME DOT,WHITEb",
    "PRESENTATION FORM FOR VERTICAL LEFT SQUARE BRACKET,dRIGHTb,DASHED OVERLINE,CENTRELINEa",
    "WAVYa,DOUBLEb,DASHED LOW LINE,CENTRELINEb,WAVYb,SMALL COMMA,aIDEOGRAPHICa,aFULL STOP,",
    "aSEMICOLON,aCOLON,aQUESTION MARK,aEXCLAMATIONa,aEM DASH,aLEFT PARENTHESIS,aRIGHTa",
    "aLEFT CURLY BRACKET,aRIGHTb,aLEFT TORTOISE SHELLa,aRIGHTc,aNUMBER SIGN,aAMPERSAND,aASTERISK",
    "aPLUS SIGN,aHYPHEN-MINUS,aLESS-THAN SIGN,aGREATER-THANa,aEQUALSa,,aREVERSE SOLIDUS",
    "aDOLLAR SIGN,aPERCENTa,aCOMMERCIAL AT,,,,,ARABIC FATHATAN ISOLATED FORM",
    "aTATWEEL WITH FATHATAN ABOVE,aDAMMATAN ISOLATED FORM,aTAIL FRAGMENT,aKASRATAN ISOLATED FORM",
    ",aFATHAb,bMEDIALa,aDAMMA ISOLATEDa,bMEDIALa,aKASRA ISOLATEDa,bMEDIALa,aSHADDA ISOLATEDa",
    "bMEDIALa,aSUKUN ISOLATEDa,bMEDIALa,aLETTER HAMZA ISOLATEDa,bALEF WITH MADDA ABOVEb,fFINALa",
    "dHAMZA ABOVE ISOLATEDa,fFINALa,bWAW WITH HAMZA ABOVE ISOLATEDa,fFINALa",
    "bALEF WITH HAMZA BELOW ISOLATEDa,fFINALa,bYEH WITH HAMZA ABOVE ISOLATEDa,fFINALa,fINITIALa",
    "fMEDIALa,bALEF ISOLATEDa,cFINALa,bBEH ISOLATEDa,cFINALa,cINITIALa,cMEDIALa",
    "bTEH MARBUTA ISOLATEDa,dFINALa,cISOLATEDa,cFINALa,cINITIALa,cMEDIALa,bTHEH ISOLATEDa",
    "cFINALa,cINITIALa,cMEDIALa,bJEEM ISOLATEDa,cFINALa,cINITIALa,cMEDIALa,bHAH ISOLATEDa",
    "cFINALa,cINITIALa,cMEDIALa,bKHAH ISOLATEDa,cFINALa,cINITIALa,cMEDIALa,bDAL ISOLATEDa",
    "cFINALa,bTHAL ISOLATEDa,cFINALa,bREH ISOLATEDa,cFINALa,bZAIN ISOLATEDa,cFINALa",
    "bSEEN ISOLATEDa,cFINALa,cINITIALa,cMEDIALa,bSHEEN ISOLATEDa,cFINALa,cINITIALa,cMEDIALa",
    "bSAD ISOLATEDa,cFINALa,cINITIALa,cMEDIALa,bDAD ISOLATEDa,cFINALa,cINITIALa,cMEDIALa",
    "bTAH ISOLATEDa,cFINALa,cINITIALa,cMEDIALa,bZAH ISOLATEDa,cFINALa,cINITIALa,cMEDIALa",
    "bAIN ISOLATEDa,cFINALa,cINITIALa,cMEDIALa,bGHAIN ISOLATEDa,cFINALa,cINITIALa,cMEDIALa",
    "bFEH ISOLATEDa,cFINALa,cINITIALa,cMEDIALa,bQAF ISOLATEDa,cFINALa,cINITIALa,cMEDIALa",
    "bKAF ISOLATEDa,cFINALa,cINITIALa,cMEDIALa,bLAM ISOLATEDa,cFINALa,cINITIALa,cMEDIALa",
    "bMEEM ISOLATEDa,cFINALa,cINITIALa,cMEDIALa,bNOON ISOLATEDa,cFINALa,cINITIALa,cMEDIALa",
    "bHEH ISOLATEDa,cFINALa,cINITIALa,cMEDIALa,bWAW ISOLATEDa,cFINALa,bALEF MAKSURA ISOLATEDa",
    "dFINALa,bYEH ISOLATEDa,cFINALa,cINITIALa,cMEDIALa",
    "aLIGATURE LAM WITH ALEF WITH MADDA ABOVE ISOLATEDa,hFINALa,fHAMZA ABOVE ISOLATEDa,hFINALa",
    "gBELOW ISOLATEDa,hFINALa,eISOLATEDa,eFINALa,,,ZERO WIDTH NO-BREAK SPACE,",
    "FULLWIDTH EXCLAMATION MARK,aQUOTATIONa,aNUMBER SIGN,aDOLLARa,aPERCENTa,aAMPERSAND",
    "aAPOSTROPHE,aLEFT PARENTHESIS,aRIGHTa,aASTERISK,aPLUS SIGN,aCOMMA,aHYPHEN-MINUS,aFULL STOP",
    "aSOLIDUS,aDIGIT ZERO,bONE,bTWO,bTHREE,bFOUR,bFIVE,bSIX,bSEVEN,bEIGHT,bNINE,aCOLON",
    "aSEMICOLON,aLESS-THAN SIGN,aEQUALSa,aGREATER-THANa,aQUESTION MARK,aCOMMERCIAL AT",
    "aLATIN CAPITAL LETTER A,dB,dC,dD,dE,dF,dG,dH,dI,dJ,dK,dL,dM,dN,dO,dP,dQ,dR,dS,dT,dU,dV,dW",
    "dX,dY,dZ,aLEFT SQUARE BRACKET,aREVERSE SOLIDUS,aRIGHT SQUARE BRACKET,aCIRCUMFLEX ACCENT",
    "aLOW LINE,aGRAVE ACCENT,aLATIN SMALL LETTER A,dB,dC,dD,dE,dF,dG,dH,dI,dJ,dK,dL,dM,dN,dO,dP",
    "dQ,dR,dS,dT,dU,dV,dW,dX,dY,dZ,aLEFT CURLY BRACKET,aVERTICAL LINE,aRIGHT CURLY BRACKET",
    "aTILDE,aLEFT WHITE PARENTHESIS,aRIGHTb,HALFWIDTH IDEOGRAPHIC FULL STOP,aLEFT CORNER BRACKET",
    "aRIGHTb,aIDEOGRAPHIC COMMA,aKATAKANA MIDDLE DOT,bLETTER WO,cSMALL A,dI,dU,dE,dO,dYA,dYU,dYO",
    "dTU,aKATAKANA-HIRAGANA PROLONGED SOUND MARK,aKATAKANA LETTER A,cI,cU,cE,cO,cKA,cKI,cKU,cKE",
    "cKO,cSA,cSI,cSU,cSE,cSO,cTA,cTI,cTU,cTE,cTO,cNA,cNI,cNU,cNE,cNO,cHA,cHI,cHU,cHE,cHO,cMA,cMI",
    "cMU,cME,cMO,cYA,cYU,cYO,cRA,cRI,cRU,cRE,cRO,cWA,cN,bVOICED SOUND MARK,bSEMI-VOICEDb",
    "aHANGUL FILLER,bLETTER KIYEOK,cSSANGKIYEOK,cKIYEOK-SIOS,cNIEUN,cNIEUN-CIEUC,cNIEUN-HIEUH",
    "cTIKEUT,cSSANGTIKEUT,cRIEUL,cRIEUL-KIYEOK,cRIEUL-MIEUM,cRIEUL-PIEUP,cRIEUL-SIOS",
    "cRIEUL-THIEUTH,cRIEUL-PHIEUPH,cRIEUL-HIEUH,cMIEUM,cPIEUP,cSSANGPIEUP,cPIEUP-SIOS,cSIOS",
    "cSSANGSIOS,cIEUNG,cCIEUC,cSSANGCIEUC,cCHIEUCH,cKHIEUKH,cTHIEUTH,cPHIEUPH,cHIEUH,,,,cA,cAE",
    "cYA,cYAE,cEO,cE,,,cYEO,cYE,cO,cWA,cWAE,cOE,,,cYO,cU,cWEO,cWE,cWI,cYU,,,cEU,cYI,cI,,,",
    "FULLWIDTH CENT SIGN,aPOUNDa,aNOTa,aMACRON,aBROKEN BAR,aYEN SIGN,aWONa,",
    "HALFWIDTH FORMS LIGHT VERTICAL,aLEFTWARDS ARROW,aUPWARDSa,aRIGHTWARDSa,aDOWNWARDSa",
    "aBLACK SQUARE,aWHITE CIRCLE,,,,,,,,,,,INTERLINEAR ANNOTATION ANCHOR,bSEPARATOR,bTERMINATOR",
    "OBJECT REPLACEMENT CHARACTER,REPLACEMENT CHARACTER,,,LINEAR B SYLLABLE B008 A,cB038 E",
    "cB028 I,cB061 O,cB010 U,cB001 DA,cB045 DE,cB007 DI,cB014 DO,cB051 DU,cB057 JA,cB046 JE,",
    "cB036 JO,cB065 JU,cB077 KA,cB044 KE,cB067 KI,cB070 KO,cB081 KU,cB080 MA,cB013 ME,cB073 MI",
    "cB015 MO,cB023 MU,cB006 NA,cB024 NE,cB030 NI,cB052 NO,cB055 NU,cB003 PA,cB072 PE,cB039 PI",
    "cB011 PO,cB050 PU,cB016 QA,cB078 QE,cB021 QI,cB032 QO,,cB060 RA,cB027 RE,cB053 RI,cB002 RO",
    "cB026 RU,cB031 SA,cB009 SE,cB041 SI,cB012 SO,cB058 SU,cB059 TA,cB004 TE,cB037 TI,cB005 TO",
    "cB069 TU,cB054 WA,cB075 WE,cB040 WI,cB042 WO,,cB017 ZA,cB074 ZE,,cB020 ZO,cB025 A2,cB043 A3",
    "cB085 AU,cB071 DWE,cB090 DWO,cB048 NWA,cB029 PU2,cB062 PTE,cB076 RA2,cB033 RA3,cB068 RO2",
    "cB066 TA2,cB087 TWE,cB091 TWO,,,bSYMBOL B018,cB019,cB022,cB034,cB047,cB049,cB056,cB063",
    "cB064,cB079,cB082,cB083,cB086,cB089"]⟩]

end OrderSheet.Text
